import Mathlib
import SchemaClient.Name

/-! Numbered names are free: of more candidates than there are obstacles, one is left. -/
namespace SchemaClient.Name

theorem numbered_injective (base : String) : Function.Injective (numbered base) := by
  intro i j h
  unfold numbered at h
  have hk : toString i = toString j := (String.append_right_inj _).mp h
  rw [Nat.toString_eq_repr, Nat.toString_eq_repr] at hk
  exact Nat.repr_inj.mp hk

/-- Of the numbers in a range, no more have their image in a list than the list is long. -/
theorem countP_mem_le_length {f : ℕ → String} (hf : Function.Injective f) (taken : List String)
    (start bound : ℕ) :
    (List.range' start bound).countP (fun k => taken.contains (f k)) ≤ taken.length := by
  have hnodup : (((List.range' start bound).filter fun k => taken.contains (f k)).map f).Nodup :=
    ((List.nodup_range' _).filter _).map hf
  have hsub : ((List.range' start bound).filter fun k => taken.contains (f k)).map f ⊆ taken := by
    intro s hs
    obtain ⟨k, hk, rfl⟩ := List.mem_map.mp hs
    simpa using (List.mem_filter.mp hk).2
  have hlen := (hnodup.subperm hsub).length_le
  rwa [List.length_map, ← List.countP_eq_length_filter] at hlen

theorem countP_or_le {α : Type} (p q : α → Bool) (l : List α) :
    l.countP (fun a => p a || q a) ≤ l.countP p + l.countP q := by
  induction l with
  | nil => rfl
  | cons a rest ih =>
    simp only [List.countP_cons]
    cases p a <;> cases q a <;> simp <;> omega

/-- A search that meets fewer obstacles than it has candidates ends at the least free number. -/
theorem exists_isLeast_firstNumbered (free : String → Bool) (base : String) (bound : ℕ)
    (h : (List.range' 2 bound).countP (fun k => !free (numbered base k)) < bound) :
    ∃ k ≤ bound + 1, IsLeast {k | 2 ≤ k ∧ free (numbered base k) = true} k ∧
      firstNumbered free base bound = numbered base k := by
  cases hfind : (List.range' 2 bound).find? fun k => free (numbered base k) with
  | some k =>
    obtain ⟨hfree, hrange, hleast⟩ := List.find?_range'_eq_some.mp hfind
    obtain ⟨htwo, hbound⟩ := List.mem_range'_1.mp hrange
    refine ⟨k, by omega, ⟨⟨htwo, hfree⟩, fun j hj => ?_⟩, by simp [firstNumbered, hfind]⟩
    by_contra hlt
    simpa [hj.2] using hleast j hj.1 (by omega)
  | none =>
    have hall : ∀ k ∈ List.range' 2 bound, (!free (numbered base k)) = true := by
      intro k hk
      simpa using List.find?_eq_none.mp hfind k hk
    rw [List.countP_eq_length.mpr hall, List.length_range'] at h
    omega

theorem fresh_free (free : String → Bool) (name : String) (bound : ℕ)
    (h : (List.range' 2 bound).countP (fun k => !free (numbered (stem name) k)) < bound) :
    free (fresh free name bound) = true := by
  unfold fresh
  split_ifs with hname
  · exact hname
  · obtain ⟨k, -, hk, heq⟩ := exists_isLeast_firstNumbered free (stem name) bound h
    rw [heq]
    exact hk.1.2

theorem countP_taken_lt (taken : List String) (base : String) :
    (List.range' 2 (taken.length + 1)).countP (fun k => !!taken.contains (numbered base k)) <
      taken.length + 1 := by
  have hle := countP_mem_le_length (numbered_injective base) taken 2 (taken.length + 1)
  simp only [Bool.not_not]
  omega

theorem unique_not_mem (taken : List String) (name : String) : unique taken name ∉ taken := by
  have hfree := fresh_free (fun s => !taken.contains s) name (taken.length + 1)
    (countP_taken_lt taken (stem name))
  unfold unique
  simpa using hfree

theorem fresh_eq (free : String → Bool) (name : String) (bound : ℕ) :
    fresh free name bound = name ∨ ∃ k, fresh free name bound = numbered (stem name) k := by
  unfold fresh
  split_ifs with hname
  · exact .inl rfl
  · exact .inr ⟨_, rfl⟩

theorem isDigit_of_mem_toString {k : ℕ} {c : Char} (h : c ∈ (toString k).toList) : c.isDigit := by
  rw [Nat.toString_eq_repr, Nat.repr, String.toList_ofList] at h
  exact Nat.isDigit_of_mem_toDigits (by decide) (by decide) h

end SchemaClient.Name
