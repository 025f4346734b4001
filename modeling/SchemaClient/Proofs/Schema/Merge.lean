import SchemaClient.Proofs.Traced
import SchemaClient.Schema

/-! The merge of definitions as a fold, and what it keeps apart: the blocks of one kind have
different names, and so have the members of one block. -/
namespace SchemaClient.Schema

open Sdl

/-! ### Reading and merging -/

theorem result_step (d : Draft) (definition : Definition) :
    (d.step definition).result =
      match rejection? definition with
      | some e => .error e
      | none => .ok (d.add definition) := by
  unfold Draft.step
  cases rejection? definition with
  | some e => rfl
  | none => rfl

theorem result_foldlM_step {definitions : List Definition} {d d' : Draft} :
    (definitions.foldlM Draft.step d).result = .ok d' ↔
      (∀ x ∈ definitions, rejection? x = none) ∧ d' = definitions.foldl Draft.add d := by
  induction definitions generalizing d with
  | nil => simp [eq_comm]
  | cons x rest ih =>
    simp only [List.foldlM_cons, Traced.result_bind_eq_ok, result_step, ih, List.foldl_cons,
      List.forall_mem_cons]
    cases rejection? x with
    | some e => simp
    | none => simp

/-- A merge succeeds where no definition is rejected and a schema block is there. -/
theorem result_merge {definitions : List Definition} {d : Document} :
    (merge definitions).result = .ok d ↔
      (∀ x ∈ definitions, rejection? x = none) ∧
        (definitions.foldl Draft.add {}).hasSchema = true ∧
        d = (definitions.foldl Draft.add {}).toDocument := by
  unfold merge
  simp only [Traced.result_bind_eq_ok, result_foldlM_step]
  constructor
  · rintro ⟨draft, ⟨hall, rfl⟩, h⟩
    split_ifs at h with hs
    · exact ⟨hall, hs, (Except.ok.inj h).symm⟩
    · cases h
  · rintro ⟨hall, hs, rfl⟩
    refine ⟨_, ⟨hall, rfl⟩, ?_⟩
    rw [if_pos hs]
    rfl

theorem result_read {s : String} {d : Document} (h : (read s).result = .ok d) :
    ∃ definitions, readDocument s = .ok definitions ∧ (merge definitions).result = .ok d := by
  unfold read at h
  split_ifs at h
  · cases h
  · split at h
    · cases h
    · exact ⟨_, ‹_›, h⟩

/-! ### Names that are kept apart -/

theorem addMembers_nodup {μ : Type} (name : μ → String) (present new : List μ)
    (h : (present.map name).Nodup) : ((addMembers name present new).map name).Nodup := by
  induction new generalizing present with
  | nil => exact h
  | cons m rest ih =>
    unfold addMembers
    split_ifs with hm
    · exact ih present h
    · refine ih (present ++ [m]) ?_
      have hnew : name m ∉ present.map name := by simpa using hm
      rw [List.map_append, List.map_singleton]
      exact List.nodup_append.mpr ⟨h, List.nodup_singleton _, by simpa using hnew⟩

/-- Blocks with different names, each with members of different names. -/
structure Apart {μ : Type} (name : μ → String) (blocks : List (Block μ)) : Prop where
  names : (blocks.map Block.name).Nodup
  members : ∀ b ∈ blocks, (b.members.map name).Nodup

theorem addBlock_names {μ : Type} (name : μ → String) (new : Block μ) (blocks : List (Block μ)) :
    (addBlock name new blocks).map Block.name =
      if new.name ∈ blocks.map Block.name then blocks.map Block.name
      else blocks.map Block.name ++ [new.name] := by
  induction blocks with
  | nil => rfl
  | cons b rest ih =>
    unfold addBlock
    by_cases h : b.name = new.name
    · simp [h, absorb]
    · have hne : new.name ≠ b.name := fun e => h e.symm
      simp only [beq_iff_eq, h, if_false, List.map_cons, ih, List.mem_cons, hne, false_or]
      split_ifs <;> rfl

/-- Every block of the result was there, or was made by taking in the new one. -/
theorem mem_addBlock {μ : Type} {name : μ → String} {new b : Block μ} {blocks : List (Block μ)}
    (h : b ∈ addBlock name new blocks) :
    b ∈ blocks ∨ ∃ old, (old ∈ blocks ∨ old = { name := new.name }) ∧ old.name = new.name ∧
      b = absorb name old new := by
  induction blocks with
  | nil =>
    rw [addBlock, List.mem_singleton] at h
    exact .inr ⟨_, .inr rfl, rfl, h⟩
  | cons head rest ih =>
    unfold addBlock at h
    split_ifs at h with hname
    · rcases List.mem_cons.mp h with rfl | hb
      · exact .inr ⟨head, .inl List.mem_cons_self, by simpa using hname, rfl⟩
      · exact .inl (List.mem_cons_of_mem _ hb)
    · rcases List.mem_cons.mp h with rfl | hb
      · exact .inl List.mem_cons_self
      · rcases ih hb with hb | ⟨old, hold, he⟩
        · exact .inl (List.mem_cons_of_mem _ hb)
        · exact .inr ⟨old, hold.imp_left (List.mem_cons_of_mem _), he⟩

theorem Apart.addBlock {μ : Type} {name : μ → String} {blocks : List (Block μ)}
    (h : Apart name blocks) (new : Block μ) : Apart name (addBlock name new blocks) where
  names := by
    rw [addBlock_names]
    split_ifs with hmem
    · exact h.names
    · exact List.nodup_append.mpr ⟨h.names, List.nodup_singleton _, by simpa using hmem⟩
  members := by
    intro b hb
    rcases mem_addBlock hb with hb | ⟨old, hold, -, rfl⟩
    · exact h.members b hb
    · refine addMembers_nodup name old.members new.members ?_
      rcases hold with hold | rfl
      · exact h.members old hold
      · exact List.nodup_nil

/-- Types and members of a document are told apart by their names. -/
structure Document.Distinct (d : Document) : Prop where
  objects : Apart ObjectField.name d.objects
  inputs : Apart InputValue.name d.inputs
  enums : Apart EnumValue.name d.enums

theorem Document.distinct_empty : ({} : Document).Distinct where
  objects := ⟨List.nodup_nil, by simp⟩
  inputs := ⟨List.nodup_nil, by simp⟩
  enums := ⟨List.nodup_nil, by simp⟩

/-- Roots leave everything else of a document as it is. -/
theorem Document.addRoots_types (d : Document) (roots : List RootType) :
    (d.addRoots roots).objects = d.objects ∧ (d.addRoots roots).inputs = d.inputs ∧
      (d.addRoots roots).enums = d.enums ∧ (d.addRoots roots).scalars = d.scalars := by
  unfold Document.addRoots
  induction roots generalizing d with
  | nil => exact ⟨rfl, rfl, rfl, rfl⟩
  | cons root rest ih =>
    rw [List.foldl_cons]
    cases root.operation <;> exact ih _

theorem Document.Distinct.addRoots {d : Document} (h : d.Distinct) (roots : List RootType) :
    (d.addRoots roots).Distinct := by
  obtain ⟨ho, hi, he, -⟩ := d.addRoots_types roots
  exact ⟨ho ▸ h.objects, hi ▸ h.inputs, he ▸ h.enums⟩

theorem Draft.distinct_add {d : Draft} (h : d.toDocument.Distinct) (x : Definition) :
    (d.add x).toDocument.Distinct := by
  cases x with
  | schema roots =>
    simp only [Draft.add]
    split_ifs
    · exact h
    · exact h.addRoots roots
  | schemaExtension roots => exact h.addRoots roots
  | scalar name =>
    simp only [Draft.add]
    split_ifs
    · exact h
    · exact ⟨h.objects, h.inputs, h.enums⟩
  | object block interfaces => exact ⟨h.objects.addBlock block, h.inputs, h.enums⟩
  | input block => exact ⟨h.objects, h.inputs.addBlock block, h.enums⟩
  | enum block => exact ⟨h.objects, h.inputs, h.enums.addBlock block⟩
  | _ => exact h

/-- What taking in each definition preserves, merging them all preserves. -/
theorem invariant_of_merge {P : Document → Prop} {definitions : List Definition} {d : Document}
    (h : (merge definitions).result = .ok d) (hempty : P {})
    (hadd : ∀ (draft : Draft), ∀ x ∈ definitions, P draft.toDocument →
      P (draft.add x).toDocument) : P d := by
  obtain ⟨-, -, rfl⟩ := result_merge.mp h
  have hfold : ∀ (rest : List Definition) (draft : Draft), rest ⊆ definitions →
      P draft.toDocument → P (rest.foldl Draft.add draft).toDocument := by
    intro rest
    induction rest with
    | nil => exact fun draft _ hdraft => hdraft
    | cons x rest ih =>
      intro draft hsub hdraft
      obtain ⟨hx, hrest⟩ := List.cons_subset.mp hsub
      exact ih _ hrest (hadd draft x hx hdraft)
  exact hfold definitions {} (List.Subset.refl _) hempty

theorem distinct_of_merge {definitions : List Definition} {d : Document}
    (h : (merge definitions).result = .ok d) : d.Distinct :=
  invariant_of_merge h Document.distinct_empty fun _ x _ hdraft => Draft.distinct_add hdraft x

theorem distinct_of_read {s : String} {d : Document} (h : (read s).result = .ok d) :
    d.Distinct := by
  obtain ⟨definitions, -, hmerge⟩ := result_read h
  exact distinct_of_merge hmerge

end SchemaClient.Schema
