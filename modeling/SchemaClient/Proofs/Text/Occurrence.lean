import Mathlib
import SchemaClient.Text.Basic

/-! What a text that is put together holds. A pattern whose first character does not come again in
it does not overlap with itself, so that every place where it starts counts, and a text can be
counted piece by piece. -/
namespace SchemaClient.Text

theorem startsWith_iff {pattern cs : List Char} : startsWith pattern cs ↔ pattern <+: cs := by
  induction pattern generalizing cs with
  | nil => simp [startsWith]
  | cons p ps ih =>
    cases cs with
    | nil => simp [startsWith]
    | cons c rest => simp [startsWith, List.cons_prefix_cons, ih]

/-- No start of the pattern is left open at the end of a text. -/
def IsClosed (pattern a : List Char) : Prop :=
  ∀ start ∈ pattern.inits, start ≠ [] → start <:+ a → start = pattern

instance (pattern a : List Char) : Decidable (IsClosed pattern a) :=
  inferInstanceAs (Decidable (∀ start ∈ pattern.inits, start ≠ [] → start <:+ a → start = pattern))

section Once

variable {p : Char} {ps : List Char}

/-- Nothing is missed where what is skipped holds no start of the pattern. -/
theorem countFrom_eq {skip : ℕ} {cs : List Char} (h : p ∉ cs.take skip) :
    countFrom (p :: ps) skip cs = countFrom (p :: ps) 0 cs := by
  induction skip generalizing cs with
  | zero => rfl
  | succ skip ih =>
    cases cs with
    | nil => rfl
    | cons c rest =>
      rw [List.take_succ_cons, List.mem_cons, not_or] at h
      have hstart : startsWith (p :: ps) (c :: rest) = false := by simp [startsWith, h.1]
      rw [countFrom, countFrom, if_neg (by simp [hstart])]
      exact ih h.2

variable (hp : p ∉ ps)

include hp

theorem countFrom_cons (c : Char) (cs : List Char) :
    countFrom (p :: ps) 0 (c :: cs) =
      (if p :: ps <+: c :: cs then 1 else 0) + countFrom (p :: ps) 0 cs := by
  rw [countFrom]
  by_cases hstart : p :: ps <+: c :: cs
  · rw [if_pos (startsWith_iff.mpr hstart), if_pos hstart, add_comm]
    congr 1
    obtain ⟨-, rest, rfl⟩ := List.cons_prefix_cons.mp hstart
    refine countFrom_eq ?_
    simpa using hp
  · rw [if_neg (mt startsWith_iff.mp hstart), if_neg hstart, zero_add]

theorem countFrom_eq_zero_iff {cs : List Char} :
    countFrom (p :: ps) 0 cs = 0 ↔ ¬p :: ps <:+: cs := by
  induction cs with
  | nil => simp [countFrom]
  | cons c rest ih =>
    rw [countFrom_cons hp, List.infix_cons_iff, Nat.add_eq_zero_iff, ih, not_or]
    simp

/-- A text can be counted in two pieces if no start of the pattern that ends the first is continued
in the second. -/
theorem countFrom_append {a b : List Char}
    (h : ∀ start rest, start ≠ [] → rest ≠ [] → start ++ rest = p :: ps → start <:+ a →
      ¬rest <+: b) :
    countFrom (p :: ps) 0 (a ++ b) = countFrom (p :: ps) 0 a + countFrom (p :: ps) 0 b := by
  induction a with
  | nil => simp [countFrom]
  | cons c a ih =>
    have hstart : p :: ps <+: c :: a ++ b ↔ p :: ps <+: c :: a := by
      refine ⟨fun hwhole => ?_, fun hleft => hleft.trans (List.prefix_append _ _)⟩
      rcases List.prefix_or_prefix_of_prefix hwhole (List.prefix_append _ b) with
        hleft | ⟨rest, hrest⟩
      · exact hleft
      · by_cases hnil : rest = []
        · rw [← hrest, hnil, List.append_nil]
        · rw [← hrest, List.prefix_append_right_inj] at hwhole
          exact absurd hwhole (h (c :: a) rest (by simp) hnil hrest List.suffix_rfl)
    rw [List.cons_append, countFrom_cons hp, countFrom_cons hp, ← List.cons_append, add_assoc,
      ih fun start rest hs hr heq hsuffix =>
        h start rest hs hr heq (hsuffix.trans (List.suffix_cons _ _))]
    simp only [hstart]

theorem countFrom_append_of_isClosed {a : List Char} (h : IsClosed (p :: ps) a) (b : List Char) :
    countFrom (p :: ps) 0 (a ++ b) = countFrom (p :: ps) 0 a + countFrom (p :: ps) 0 b := by
  refine countFrom_append hp fun start rest hstart hrest heq hsuffix => absurd ?_ hrest
  have hall := h start ((List.mem_inits _ _).mpr ⟨rest, heq⟩) hstart hsuffix
  exact List.append_right_eq_self.mp (heq.trans hall.symm)

theorem countFrom_append_of_not_mem {a : List Char} (h : p ∉ a) (b : List Char) :
    countFrom (p :: ps) 0 (a ++ b) = countFrom (p :: ps) 0 b := by
  have hnone : countFrom (p :: ps) 0 a = 0 :=
    (countFrom_eq_zero_iff hp).mpr fun hfound => h (hfound.subset List.mem_cons_self)
  rw [countFrom_append hp, hnone, Nat.zero_add]
  intro start rest hstart _ heq hsuffix
  obtain ⟨c, start, rfl⟩ := List.exists_cons_of_ne_nil hstart
  obtain ⟨rfl, -⟩ := List.cons.inj heq
  exact absurd (hsuffix.subset List.mem_cons_self) h

end Once

theorem not_mem_join {c : Char} {separator : String} (hseparator : c ∉ separator.toList)
    {texts : List String} (h : ∀ s ∈ texts, c ∉ s.toList) : c ∉ (join separator texts).toList := by
  induction texts with
  | nil => simp [join]
  | cons s more ih =>
    obtain ⟨hs, hmore⟩ := List.forall_mem_cons.mp h
    cases more with
    | nil => exact hs
    | cons t more =>
      have hjoin : join separator (s :: t :: more) =
        s ++ separator ++ join separator (t :: more) := rfl
      rw [hjoin, String.toList_append, String.toList_append, List.mem_append, List.mem_append]
      rintro ((hmem | hmem) | hmem)
      · exact hs hmem
      · exact hseparator hmem
      · exact ih hmore hmem

end SchemaClient.Text
