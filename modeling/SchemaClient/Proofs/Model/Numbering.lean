import SchemaClient.Proofs.Model.Members
import SchemaClient.Proofs.Name.Settled

/-! Numbering as a loop: a candidate that is not free gives way to the next number. The loop comes
to an end whatever names are taken, and ends at the least number that is free. -/
namespace SchemaClient

namespace Name

/-- A loop that has come to `name` and counts on from `k` ends with `result`. -/
inductive Ends (free : String → Prop) (base : String) : String → ℕ → String → Prop where
  | found {name : String} {k : ℕ} (h : free name) : Ends free base name k name
  | next {name result : String} {k : ℕ} (h : ¬free name)
      (rest : Ends free base (numbered base (k + 1)) (k + 1) result) : Ends free base name k result

section Loop

variable {free : String → Prop} {base name result : String} {j k : ℕ}

/-- What a run of the loop has found. -/
theorem Ends.result_cases (h : Ends free base name k result) :
    free name ∧ result = name ∨
      ¬free name ∧ ∃ j, IsLeast {j | k < j ∧ free (numbered base j)} j ∧
        result = numbered base j := by
  induction h with
  | found hfree => exact .inl ⟨hfree, rfl⟩
  | @next name result k htaken _ ih =>
    refine .inr ⟨htaken, ?_⟩
    rcases ih with ⟨hfree, rfl⟩ | ⟨hnext, j, ⟨⟨hlt, hfree⟩, hleast⟩, rfl⟩
    · exact ⟨k + 1, ⟨⟨by omega, hfree⟩, fun i hi => hi.1⟩, rfl⟩
    · refine ⟨j, ⟨⟨by omega, hfree⟩, fun i hi => hleast ⟨?_, hi.2⟩⟩, rfl⟩
      have hne : i ≠ k + 1 := by
        rintro rfl
        exact hnext hi.2
      have := hi.1
      omega

/-- The loop reaches the least free number from every number before it. -/
theorem ends_of_isLeast (htaken : ¬free name)
    (h : IsLeast {j | k < j ∧ free (numbered base j)} j) :
    Ends free base name k (numbered base j) := by
  have hlt : k < j := h.1.1
  -- on the number of rounds that are left
  obtain ⟨n, rfl⟩ : ∃ n, j = k + 1 + n := ⟨j - (k + 1), by omega⟩
  clear hlt
  induction n generalizing name k with
  | zero => exact .next htaken (.found h.1.2)
  | succ n ih =>
    have hnext : ¬free (numbered base (k + 1)) := by
      intro hfound
      have := h.2 ⟨Nat.lt_succ_self k, hfound⟩
      omega
    have hsum : k + 1 + (n + 1) = k + 1 + 1 + n := by omega
    rw [hsum] at h ⊢
    refine .next htaken (ih hnext ⟨⟨by omega, h.1.2⟩, fun i hi => h.2 ⟨?_, hi.2⟩⟩)
    exact Nat.lt_of_succ_lt hi.1

theorem ends_iff : Ends free base name k result ↔
    free name ∧ result = name ∨
      ¬free name ∧ ∃ j, IsLeast {j | k < j ∧ free (numbered base j)} j ∧
        result = numbered base j := by
  refine ⟨Ends.result_cases, ?_⟩
  rintro (⟨hfree, rfl⟩ | ⟨htaken, j, hj, rfl⟩)
  · exact .found hfree
  · exact ends_of_isLeast htaken hj

end Loop

/-- A stem lacks the trailing underscores of its name, and nothing else. -/
theorem stem_spec (name : String) :
    (stem name).toList.getLast? ≠ some '_' ∧
      ∃ n, name = stem name ++ String.ofList (List.replicate n '_') := by
  have hchars : ∀ cs : List Char, (Text.dropEndWhile (· == '_') cs).getLast? ≠ some '_' ∧
      ∃ n, cs = Text.dropEndWhile (· == '_') cs ++ List.replicate n '_' := by
    intro cs
    induction cs using List.reverseRecOn with
    | nil => exact ⟨by simp [Text.dropEndWhile], 0, rfl⟩
    | append_singleton cs c ih =>
      by_cases hc : c = '_'
      · subst hc
        obtain ⟨hlast, n, hn⟩ := ih
        rw [dropEndWhile_append_singleton rfl]
        refine ⟨hlast, n + 1, ?_⟩
        rw [List.replicate_succ', ← List.append_assoc, ← hn]
      · rw [dropEndWhile_of_getLast? (by simpa using hc) List.getLast?_concat]
        exact ⟨by simpa using hc, 0, (List.append_nil _).symm⟩
  obtain ⟨hlast, n, hn⟩ := hchars name.toList
  refine ⟨by rwa [stem, String.toList_ofList], n, ?_⟩
  rw [stem, ← String.ofList_append, ← hn, String.ofList_toList]

/-- `result` is what the loop makes of `name`: the name itself if it is free, and otherwise its stem
with the least free number from two on. No number above `bound` is tried. -/
structure IsNumbered (free : String → Prop) (bound : ℕ) (name result : String) : Prop where
  ends : ∀ r, Ends free (stem name) name 1 r ↔ r = result
  kept : free name → result = name
  least : ¬free name → ∃ k ≤ bound, IsLeast {k | 2 ≤ k ∧ free (numbered (stem name) k)} k ∧
    result = numbered (stem name) k
  isFree : free result

theorem isNumbered_fresh (free : String → Bool) (name : String) (bound : ℕ)
    (h : (List.range' 2 bound).countP (fun k => !free (numbered (stem name) k)) < bound) :
    IsNumbered (free · = true) (bound + 1) name (fresh free name bound) := by
  have hkept : free name = true → fresh free name bound = name := fun hfree => if_pos hfree
  have hleast : ¬free name = true → ∃ k ≤ bound + 1,
      IsLeast {k | 2 ≤ k ∧ free (numbered (stem name) k) = true} k ∧
        fresh free name bound = numbered (stem name) k := by
    intro htaken
    rw [fresh, if_neg htaken]
    exact exists_isLeast_firstNumbered free (stem name) bound h
  refine ⟨fun r => ?_, hkept, hleast, fresh_free free name bound h⟩
  rw [ends_iff]
  by_cases hname : free name = true
  · simp [hname, hkept hname]
  · obtain ⟨k, -, hk, heq⟩ := hleast hname
    rw [heq]
    constructor
    · rintro (⟨hfree, -⟩ | ⟨-, j, hj, rfl⟩)
      · exact absurd hfree hname
      · rw [hj.unique hk]
    · rintro rfl
      exact .inr ⟨hname, k, hk, rfl⟩

theorem isNumbered_unique (taken : List String) (name : String) :
    IsNumbered (· ∉ taken) (taken.length + 2) name (unique taken name) := by
  have h := isNumbered_fresh (fun s => !taken.contains s) name (taken.length + 1)
    (countP_taken_lt taken (stem name))
  simp only [Bool.not_eq_true', ← Bool.not_eq_true, List.contains_iff_mem] at h
  exact h

end Name

theorem Model.isNumbered_allocate (reserved taken : List String) (wire : String) (backed : Bool) :
    Name.IsNumbered (fun n => n ∉ taken ∧ (backed = true → Field.backing n ∉ taken))
      (2 * taken.length + 2) (preferredName reserved wire)
      (allocate reserved taken wire backed) := by
  have h := Name.isNumbered_fresh (isFree taken backed) (preferredName reserved wire)
    (2 * taken.length + 1) (countP_not_isFree_lt taken backed _)
  simp only [isFree_iff] at h
  exact h

/-- Looking for a free name comes to an end whatever names are taken. Where a name is not free its
stem, which is the name without its trailing underscores, gets the least number from two on that
makes it free; the name of a member with a backing name gets the least one that makes both free. -/
theorem numbering_isLeast (reserved taken : List String) :
    (∀ name, (Name.stem name).toList.getLast? ≠ some '_' ∧
      ∃ n, name = Name.stem name ++ String.ofList (List.replicate n '_')) ∧
    (∀ name, Name.IsNumbered (· ∉ taken) (taken.length + 2) name (Name.unique taken name)) ∧
    ∀ wire backed, Name.IsNumbered
      (fun n => n ∉ taken ∧ (backed = true → Field.backing n ∉ taken)) (2 * taken.length + 2)
      (if Name.memberName wire ∈ reserved then Name.memberName wire ++ "_"
        else Name.memberName wire)
      (Model.allocate reserved taken wire backed) := by
  refine ⟨Name.stem_spec, Name.isNumbered_unique taken, fun wire backed => ?_⟩
  have h := Model.isNumbered_allocate reserved taken wire backed
  simpa only [Model.preferredName, List.contains_iff_mem] using h

end SchemaClient
