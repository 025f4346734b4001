import Mathlib
import SchemaClient.Proofs.Schema.Merge
import SchemaClient.Proofs.Sdl.Document

/-! A document holds the names and numbers of its definitions, and no others. -/
namespace SchemaClient.Schema

open Sdl

structure Document.Valid (d : Document) : Prop where
  objects : ∀ b ∈ d.objects, b.Valid ObjectField.Valid
  inputs : ∀ b ∈ d.inputs, b.Valid InputValue.Valid
  enums : ∀ b ∈ d.enums, b.Valid EnumValue.Valid
  scalars : ∀ s ∈ d.scalars, isName s.toList
  queryType : ∀ r ∈ d.queryType, isName r.toList
  mutationType : ∀ r ∈ d.mutationType, isName r.toList

theorem Document.valid_empty : ({} : Document).Valid := by
  constructor <;> simp

theorem mem_addMembers {μ : Type} {name : μ → String} {present new : List μ} {m : μ}
    (h : m ∈ addMembers name present new) : m ∈ present ∨ m ∈ new := by
  induction new generalizing present with
  | nil => exact .inl h
  | cons first rest ih =>
    unfold addMembers at h
    split_ifs at h
    · exact (ih h).imp_right (List.mem_cons_of_mem _)
    · rcases ih h with hm | hm
      · rcases List.mem_append.mp hm with hm | hm
        · exact .inl hm
        · exact .inr (List.mem_singleton.mp hm ▸ List.mem_cons_self)
      · exact .inr (List.mem_cons_of_mem _ hm)

theorem valid_addBlock {μ : Type} {name : μ → String} {member : μ → Prop} {new : Block μ}
    {blocks : List (Block μ)} (h : ∀ b ∈ blocks, b.Valid member) (hnew : new.Valid member) :
    ∀ b ∈ addBlock name new blocks, b.Valid member := by
  intro b hb
  rcases mem_addBlock hb with hb | ⟨old, hold, hname, rfl⟩
  · exact h b hb
  · have hmembers : ∀ m ∈ old.members, member m := by
      rcases hold with hold | rfl
      · exact (h old hold).members
      · simp
    refine ⟨?_, fun m hm => ?_⟩
    · show isName old.name.toList
      rw [hname]
      exact hnew.name
    · exact (mem_addMembers hm).elim (hmembers m) (hnew.members m)

theorem Document.Valid.addRoots {d : Document} (h : d.Valid) {roots : List RootType}
    (hroots : ∀ r ∈ roots, isName r.type.toList) : (d.addRoots roots).Valid := by
  unfold Document.addRoots
  induction roots generalizing d with
  | nil => exact h
  | cons root rest ih =>
    obtain ⟨hroot, hrest⟩ := List.forall_mem_cons.mp hroots
    rw [List.foldl_cons]
    refine ih ?_ hrest
    -- a root that is there already stays, whatever comes behind it
    have hor : ∀ known : Option String, (∀ r ∈ known, isName r.toList) →
        ∀ r ∈ known.or (some root.type), isName r.toList := by
      intro known hknown r hr
      cases known with
      | none => exact Option.mem_some_iff.mp hr ▸ hroot
      | some name => exact hknown r hr
    cases root.operation with
    | query => exact { h with queryType := hor _ h.queryType }
    | mutation => exact { h with mutationType := hor _ h.mutationType }
    | subscription => exact h

theorem Draft.valid_add {d : Draft} (h : d.toDocument.Valid) {x : Definition} (hx : x.Valid) :
    (d.add x).toDocument.Valid := by
  cases x with
  | schema roots =>
    simp only [Draft.add]
    split_ifs
    · exact h
    · exact h.addRoots hx
  | schemaExtension roots => exact h.addRoots hx
  | scalar name =>
    simp only [Draft.add]
    split_ifs
    · exact h
    · refine { h with scalars := fun s hs => ?_ }
      rcases List.mem_append.mp hs with hs | hs
      · exact h.scalars s hs
      · exact List.mem_singleton.mp hs ▸ hx
  | object block interfaces => exact { h with objects := valid_addBlock h.objects hx }
  | input block => exact { h with inputs := valid_addBlock h.inputs hx }
  | enum block => exact { h with enums := valid_addBlock h.enums hx }
  | _ => exact h

theorem valid_of_read {s : String} {d : Document} (h : (read s).result = .ok d) : d.Valid := by
  obtain ⟨definitions, hread, hmerge⟩ := result_read h
  exact invariant_of_merge hmerge Document.valid_empty fun _ x hx hdraft =>
    Draft.valid_add hdraft (valid_of_readDocument hread x hx)

end SchemaClient.Schema
