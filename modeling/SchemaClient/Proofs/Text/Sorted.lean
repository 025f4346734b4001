import Mathlib
import SchemaClient.Text.Basic

/-! Sorted sets of texts: they have the members of the list, in ascending order. -/
namespace SchemaClient.Text

theorem mem_insertSorted {s t : String} {texts : List String} :
    t ∈ insertSorted s texts ↔ t = s ∨ t ∈ texts := by
  induction texts with
  | nil => simp [insertSorted]
  | cons first rest ih =>
    unfold insertSorted
    split_ifs with hlt heq
    · simp
    · simp [beq_iff_eq.mp heq]
    · simp [ih, or_left_comm]

theorem mem_sortedSet {s : String} {texts : List String} : s ∈ sortedSet texts ↔ s ∈ texts := by
  unfold sortedSet
  induction texts with
  | nil => simp
  | cons first rest ih => simp [mem_insertSorted, ih]

theorem pairwise_insertSorted {texts : List String} (h : texts.Pairwise (· < ·)) (s : String) :
    (insertSorted s texts).Pairwise (· < ·) := by
  induction texts with
  | nil => simp [insertSorted]
  | cons first rest ih =>
    obtain ⟨hfirst, hrest⟩ := List.pairwise_cons.mp h
    unfold insertSorted
    split_ifs with hlt heq
    · refine List.pairwise_cons.mpr ⟨fun t ht => ?_, h⟩
      rcases List.mem_cons.mp ht with rfl | ht
      · exact hlt
      · exact hlt.trans (hfirst t ht)
    · exact h
    · have hgt : first < s := lt_of_le_of_ne (not_lt.mp hlt) (fun e => heq (by simp [e]))
      refine List.pairwise_cons.mpr ⟨fun t ht => ?_, ih hrest⟩
      rcases mem_insertSorted.mp ht with rfl | ht
      · exact hgt
      · exact hfirst t ht

theorem pairwise_sortedSet (texts : List String) : (sortedSet texts).Pairwise (· < ·) := by
  unfold sortedSet
  induction texts with
  | nil => exact List.Pairwise.nil
  | cons first rest ih => exact pairwise_insertSorted ih first

/-- Texts with the same members make the same set. -/
theorem sortedSet_congr {as bs : List String} (h : ∀ s, s ∈ as ↔ s ∈ bs) :
    sortedSet as = sortedSet bs := by
  have hperm : (sortedSet as).Perm (sortedSet bs) := by
    rw [List.perm_ext_iff_of_nodup (pairwise_sortedSet as).nodup (pairwise_sortedSet bs).nodup]
    intro s
    rw [mem_sortedSet, mem_sortedSet, h]
  exact hperm.eq_of_pairwise (fun _ _ _ _ hab hba => absurd (hab.trans hba) (lt_irrefl _))
    (pairwise_sortedSet as) (pairwise_sortedSet bs)

end SchemaClient.Text
