import Mathlib
import SchemaClient.Table

/-! Tables that are filled pair by pair: the last value of a key counts, and where no key is
repeated the table is the list of its pairs. -/
namespace SchemaClient.Table

variable {κ α : Type} [DecidableEq κ]

/-! ### Pairs in their order -/

/-- The last value put for a key counts, or else what was there before. -/
theorem get?_foldl_put (pairs : List (κ × α)) (t : Table κ α) (key : κ) :
    (pairs.foldl (fun t p => t.put p.1 p.2) t).get? key =
      (pairs.reverse.lookup key).or (t.get? key) := by
  induction pairs generalizing t with
  | nil => rfl
  | cons p rest ih =>
    rw [List.foldl_cons, ih, get?_put, List.reverse_cons, List.lookup_append]
    by_cases hp : p.1 = key
    · simp [hp, List.lookup]
    · have hne : (key == p.1) = false := by simpa using Ne.symm hp
      simp [hp, List.lookup, hne]

theorem get?_ofPairs (pairs : List (κ × α)) (key : κ) :
    (ofPairs pairs).get? key = pairs.reverse.lookup key := by
  rw [ofPairs, get?_foldl_put, get?, Option.or_none]

theorem lookup_filter (keep : κ → Bool) {key : κ} (h : keep key)
    (pairs : List (κ × α)) :
    (pairs.filter fun p => keep p.1).lookup key = pairs.lookup key := by
  induction pairs with
  | nil => rfl
  | cons p rest ih =>
    obtain ⟨k, a⟩ := p
    by_cases hk : key = k
    · subst hk
      simp [h]
    · have hne : (key == k) = false := by simpa using hk
      rw [List.lookup_cons, hne, ← ih, List.filter_cons]
      split_ifs
      · rw [List.lookup_cons, hne]
      · rfl

theorem mem_of_get?_ofPairs {pairs : List (κ × α)} {key : κ} {value : α}
    (h : (ofPairs pairs).get? key = some value) : (key, value) ∈ pairs := by
  rw [get?_ofPairs, List.lookup_eq_some_iff] at h
  obtain ⟨before, after, hsplit, -⟩ := h
  rw [← List.mem_reverse, hsplit]
  simp

theorem exists_get?_ofPairs {pairs : List (κ × α)} {key : κ} :
    (∃ value, (ofPairs pairs).get? key = some value) ↔ key ∈ pairs.map Prod.fst := by
  have hnone : (ofPairs pairs).get? key = none ↔ key ∉ pairs.map Prod.fst := by
    rw [get?_ofPairs, List.lookup_eq_none_iff]
    simp only [List.mem_reverse, List.mem_map, not_exists, not_and]
    exact forall₂_congr fun p _ => by rw [bne_iff_ne, ne_comm]
  rw [← Option.isSome_iff_exists, ← Option.ne_none_iff_isSome, Ne, hnone, not_not]

/-! ### Tables with different keys -/

theorem put_of_not_mem {t : Table κ α} {key : κ} (h : key ∉ t.map Prod.fst) (value : α) :
    t.put key value = t ++ [(key, value)] := by
  induction t with
  | nil => rfl
  | cons entry rest ih =>
    rw [List.map_cons, List.mem_cons, not_or] at h
    rw [put, if_neg (by simpa using Ne.symm h.1), ih h.2]
    rfl

theorem foldl_put (t pairs : Table κ α) (h : ((t ++ pairs).map Prod.fst).Nodup) :
    pairs.foldl (fun t p => t.put p.1 p.2) t = t ++ pairs := by
  induction pairs generalizing t with
  | nil => simp
  | cons p rest ih =>
    have hnew : p.1 ∉ t.map Prod.fst := by
      rw [List.map_append, List.map_cons] at h
      exact fun hmem => (List.nodup_append.mp h).2.2 _ hmem _ List.mem_cons_self rfl
    have happend : t ++ p :: rest = t ++ [p] ++ rest := by simp
    rw [happend] at h ⊢
    rw [List.foldl_cons, put_of_not_mem hnew]
    exact ih (t ++ [p]) h

theorem ofPairs_eq_self {pairs : Table κ α} (h : (pairs.map Prod.fst).Nodup) :
    ofPairs pairs = pairs := by
  have hfold := foldl_put [] pairs h
  rwa [List.nil_append] at hfold

theorem get?_eq_some_iff {t : Table κ α} (h : (t.map Prod.fst).Nodup) {key : κ} {value : α} :
    t.get? key = some value ↔ (key, value) ∈ t := by
  induction t with
  | nil => simp [get?]
  | cons entry rest ih =>
    obtain ⟨k, a⟩ := entry
    rw [List.map_cons, List.nodup_cons] at h
    by_cases hk : k = key
    · subst hk
      have hrest : (k, value) ∉ rest := fun hmem => h.1 (List.mem_map.mpr ⟨_, hmem, rfl⟩)
      simp [get?, hrest, eq_comm]
    · simp [get?, hk, Ne.symm hk, ih h.2]

theorem get?_eq_none_iff {t : Table κ α} {key : κ} :
    t.get? key = none ↔ key ∉ t.map Prod.fst := by
  induction t with
  | nil => simp [get?]
  | cons entry rest ih =>
    by_cases hk : entry.1 = key
    · simp [get?, hk]
    · simp [get?, hk, Ne.symm hk, ih]

end SchemaClient.Table
