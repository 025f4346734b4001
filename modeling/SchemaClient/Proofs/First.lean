import Mathlib

/-! First elements with a property. -/
namespace SchemaClient

/-- `a` is the first element of `as` that has the property `p`. -/
def IsFirst {α : Type} (p : α → Prop) (as : List α) (a : α) : Prop :=
  ∃ before after, as = before ++ a :: after ∧ p a ∧ ∀ b ∈ before, ¬p b

section First

variable {α β : Type} {p : α → Prop} {a x : α} {as bs : List α}

theorem IsFirst.mem (h : IsFirst p as a) : a ∈ as := by
  obtain ⟨before, after, rfl, -, -⟩ := h
  exact List.mem_append_right _ List.mem_cons_self

theorem IsFirst.prop (h : IsFirst p as a) : p a := by
  obtain ⟨before, after, -, ha, -⟩ := h
  exact ha

@[simp] theorem isFirst_nil : ¬IsFirst p [] x := fun h => nomatch h.mem

theorem isFirst_cons : IsFirst p (a :: as) x ↔ p a ∧ x = a ∨ ¬p a ∧ IsFirst p as x := by
  constructor
  · rintro ⟨before, after, hsplit, hx, hbefore⟩
    cases before with
    | nil =>
      obtain ⟨rfl, rfl⟩ := List.cons.inj hsplit
      exact .inl ⟨hx, rfl⟩
    | cons b before =>
      obtain ⟨rfl, rfl⟩ := List.cons.inj hsplit
      obtain ⟨ha, hrest⟩ := List.forall_mem_cons.mp hbefore
      exact .inr ⟨ha, before, after, rfl, hx, hrest⟩
  · rintro (⟨ha, rfl⟩ | ⟨ha, before, after, rfl, hx, hbefore⟩)
    · exact ⟨[], as, rfl, ha, by simp⟩
    · exact ⟨a :: before, after, rfl, hx, List.forall_mem_cons.mpr ⟨ha, hbefore⟩⟩

theorem IsFirst.unique (h : IsFirst p as a) (hx : IsFirst p as x) : a = x := by
  induction as with
  | nil => cases h.mem
  | cons b as ih =>
    rcases isFirst_cons.mp h with ⟨hb, rfl⟩ | ⟨hb, h⟩
    · rcases isFirst_cons.mp hx with ⟨-, rfl⟩ | ⟨hb', -⟩
      · rfl
      · exact absurd hb hb'
    · rcases isFirst_cons.mp hx with ⟨hb', -⟩ | ⟨-, hx⟩
      · exact absurd hb' hb
      · exact ih h hx

theorem isFirst_append :
    IsFirst p (as ++ bs) x ↔ IsFirst p as x ∨ (∀ a ∈ as, ¬p a) ∧ IsFirst p bs x := by
  induction as with
  | nil => simp
  | cons a as ih =>
    rw [List.cons_append, isFirst_cons, isFirst_cons, ih, List.forall_mem_cons]
    tauto

theorem isFirst_map {f : β → α} {bs : List β} :
    IsFirst p (bs.map f) x ↔ ∃ b, IsFirst (fun b => p (f b)) bs b ∧ x = f b := by
  induction bs with
  | nil => simp
  | cons b bs ih =>
    rw [List.map_cons, isFirst_cons, ih]
    simp only [isFirst_cons]
    constructor
    · rintro (⟨hb, rfl⟩ | ⟨hb, c, hc, rfl⟩)
      · exact ⟨b, .inl ⟨hb, rfl⟩, rfl⟩
      · exact ⟨c, .inr ⟨hb, hc⟩, rfl⟩
    · rintro ⟨c, ⟨hb, rfl⟩ | ⟨hb, hc⟩, rfl⟩
      · exact .inl ⟨hb, rfl⟩
      · exact .inr ⟨hb, c, hc, rfl⟩

/-- There is a first element with a property just if there is one at all. -/
theorem exists_isFirst : (∃ a, IsFirst p as a) ↔ ∃ a ∈ as, p a := by
  constructor
  · rintro ⟨a, ha⟩
    exact ⟨a, ha.mem, ha.prop⟩
  · rintro ⟨a, ha, hp⟩
    induction as with
    | nil => cases ha
    | cons b as ih =>
      by_cases hb : p b
      · exact ⟨b, isFirst_cons.mpr (.inl ⟨hb, rfl⟩)⟩
      · have hne : a ≠ b := by
          rintro rfl
          exact hb hp
        obtain ⟨c, hc⟩ := ih ((List.mem_cons.mp ha).resolve_left hne)
        exact ⟨c, isFirst_cons.mpr (.inr ⟨hb, hc⟩)⟩

end First

end SchemaClient
