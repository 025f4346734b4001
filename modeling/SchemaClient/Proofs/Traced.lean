import Mathlib
import SchemaClient.Traced

/-! What a traced computation has done when it succeeds, and where it fails. -/
namespace SchemaClient

theorem bind_eq_ok_iff {ε α β : Type} {x : Except ε α} {f : α → Except ε β} {b : β} :
    x.bind f = .ok b ↔ ∃ a, x = .ok a ∧ f a = .ok b := by
  cases x <;> simp [Except.bind]

theorem bind_eq_error_iff {ε α β : Type} {x : Except ε α} {f : α → Except ε β} {e : ε} :
    x.bind f = .error e ↔ x = .error e ∨ ∃ a, x = .ok a ∧ f a = .error e := by
  cases x <;> simp [Except.bind]

/-- No step of a computation fails so, and neither does the whole. -/
theorem bind_ne_error {ε α β : Type} {x : Except ε α} {f : α → Except ε β} {e : ε}
    (hx : x ≠ .error e) (hf : ∀ a, f a ≠ .error e) : x.bind f ≠ .error e := by
  intro h
  rcases bind_eq_error_iff.mp h with h | ⟨a, -, h⟩
  · exact hx h
  · exact hf a h

theorem map_eq_ok_iff {ε α β : Type} {x : Except ε α} {f : α → β} {b : β} :
    x.map f = .ok b ↔ ∃ a, x = .ok a ∧ f a = b := by
  cases x <;> simp [Except.map]

theorem mapM_eq_ok_iff {ε α β : Type} {f : α → Except ε β} {as : List α} {bs : List β} :
    as.mapM f = .ok bs ↔ List.Forall₂ (fun a b => f a = .ok b) as bs := by
  induction as generalizing bs with
  | nil => simp [pure, Except.pure, eq_comm]
  | cons a rest ih =>
    rw [List.mapM_cons, List.forall₂_cons_left_iff]
    change Except.bind _ _ = _ ↔ _
    rw [bind_eq_ok_iff]
    constructor
    · rintro ⟨b, hb, h⟩
      obtain ⟨more, hmore, h⟩ := bind_eq_ok_iff.mp h
      exact ⟨b, more, hb, ih.mp hmore, (Except.ok.inj h).symm⟩
    · rintro ⟨b, more, hb, hmore, rfl⟩
      exact ⟨b, hb, bind_eq_ok_iff.mpr ⟨more, ih.mpr hmore, rfl⟩⟩

theorem toOption_eq_some_iff {ε α : Type} {x : Except ε α} {a : α} :
    x.toOption = some a ↔ x = .ok a := by
  cases x <;> simp [Except.toOption]

/-- The error of a result, if it is one. -/
def errorOf? {ε α : Type} : Except ε α → Option ε
  | .ok _ => none
  | .error e => some e

theorem errorOf?_eq_some_iff {ε α : Type} {x : Except ε α} {e : ε} :
    errorOf? x = some e ↔ x = .error e := by
  cases x <;> simp [errorOf?]

theorem exists_of_forall₂_right {α β : Type} {R : α → β → Prop} {as : List α} {bs : List β}
    (h : List.Forall₂ R as bs) {b : β} (hb : b ∈ bs) : ∃ a ∈ as, R a b := by
  induction h with
  | nil => cases hb
  | cons hab _ ih =>
    rcases List.mem_cons.mp hb with rfl | hb
    · exact ⟨_, List.mem_cons_self, hab⟩
    · obtain ⟨a, ha, hR⟩ := ih hb
      exact ⟨a, List.mem_cons_of_mem _ ha, hR⟩

namespace Traced

theorem ext {α : Type} {x y : Traced α} (he : x.events = y.events) (hr : x.result = y.result) :
    x = y := by
  cases x
  cases y
  simp_all

theorem events_bind {α β : Type} (x : Traced α) (f : α → Traced β) :
    (x >>= f).events = x.events ++
      match x.result with
      | .ok a => (f a).events
      | .error _ => [] := by
  obtain ⟨events, result⟩ := x
  cases result with
  | ok a => rfl
  | error e => exact (List.append_nil events).symm

theorem id_map {α : Type} (x : Traced α) : id <$> x = x := by
  obtain ⟨events, result⟩ := x
  cases result with
  | ok a => exact ext (List.append_nil events) rfl
  | error e => rfl

theorem bind_assoc {α β γ : Type} (x : Traced α) (f : α → Traced β) (g : β → Traced γ) :
    x >>= f >>= g = x >>= fun a => f a >>= g := by
  refine ext ?_ ?_
  · simp only [events_bind, result_bind]
    cases x.result <;> simp [Except.bind]
  · simp only [result_bind]
    cases x.result <;> rfl

instance : LawfulMonad Traced :=
  LawfulMonad.mk' Traced id_map (fun _ _ => rfl) bind_assoc

theorem result_bind_eq_ok {α β : Type} {x : Traced α} {f : α → Traced β} {b : β} :
    (x >>= f).result = .ok b ↔ ∃ a, x.result = .ok a ∧ (f a).result = .ok b := by
  rw [result_bind, bind_eq_ok_iff]

theorem result_bind_eq_error {α β : Type} {x : Traced α} {f : α → Traced β} {e : Error} :
    (x >>= f).result = .error e ↔
      x.result = .error e ∨ ∃ a, x.result = .ok a ∧ (f a).result = .error e := by
  rw [result_bind, bind_eq_error_iff]

@[simp] theorem result_liftM {α : Type} (x : Except Error α) :
    (liftM x : Traced α).result = x := rfl

/-- Two computations of which the second depends on the first have succeeded if something can be
seen of their results. -/
theorem exists_of_view {α β γ : Type} {x : Traced α} {f : α → Traced β} {g : α → β → γ} {v : γ}
    (h : (x.result.toOption.bind fun a => (f a).result.toOption.map (g a)) = some v) :
    ∃ a b, x.result = .ok a ∧ (f a).result = .ok b ∧ g a b = v := by
  obtain ⟨a, ha, h⟩ := Option.bind_eq_some_iff.mp h
  obtain ⟨b, hb, hv⟩ := Option.map_eq_some_iff.mp h
  exact ⟨a, b, toOption_eq_some_iff.mp ha, toOption_eq_some_iff.mp hb, hv⟩

/-- Mapping over a list succeeds where it succeeds on every element. -/
theorem result_mapM_eq_ok {α β : Type} {f : α → Traced β} {as : List α} {bs : List β} :
    (as.mapM f).result = .ok bs ↔ List.Forall₂ (fun a b => (f a).result = .ok b) as bs := by
  induction as generalizing bs with
  | nil => simp [eq_comm]
  | cons a as ih =>
    simp only [List.mapM_cons, result_bind_eq_ok, result_pure, Except.ok.injEq, ih,
      List.forall₂_cons_left_iff]
    constructor
    · rintro ⟨b, hb, rest, hrest, rfl⟩
      exact ⟨b, rest, hb, hrest, rfl⟩
    · rintro ⟨b, rest, hb, hrest, rfl⟩
      exact ⟨b, hb, rest, hrest, rfl⟩

end Traced

end SchemaClient
