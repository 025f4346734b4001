import SchemaClient.Proofs.Model.Build
import SchemaClient.Proofs.Sdl.Document

/-! Descriptors and the references that they are resolved from: what is resolved can be written as a
reference again. -/
namespace SchemaClient

open Sdl

/-! ### References -/

namespace Sdl.TypeRef

def isNonNull : TypeRef → Bool
  | nonNull _ => true
  | named _ | list _ => false

/-- No non-null reference is made non-null once more. -/
def isGrammatical : TypeRef → Bool
  | named _ => true
  | list of => of.isGrammatical
  | nonNull of => !of.isNonNull && of.isGrammatical

/-- The name under all wrappers. -/
def name : TypeRef → String
  | named name => name
  | list of => of.name
  | nonNull of => of.name

/-- Whether null is admitted at each level, the outermost first. -/
def levels : TypeRef → List Bool
  | named _ => [true]
  | list of => true :: of.levels
  | nonNull of => false :: of.levels.tail

end Sdl.TypeRef

namespace Sdl.Parse

theorem ensures_typeRefWithin_isGrammatical (fuel : Nat) :
    Ensures (typeRefWithin fuel) fun t => t.isGrammatical := by
  induction fuel with
  | zero => exact ensures_unexpected
  | succ fuel ih =>
    -- a mark is read at most once behind each bracket and each name
    have hbang : ∀ inner : TypeRef, (inner.isNonNull = false ∧ inner.isGrammatical) →
        Ensures (do if ← optional .bang then return .nonNull inner else return inner)
          fun t => t.isGrammatical := by
      rintro inner ⟨hnull, hinner⟩
      refine ensures_bind (sound_optional _) fun _ _ => ensures_ite ?_ (ensures_pure hinner)
      exact ensures_pure (by simp [TypeRef.isGrammatical, hnull, hinner])
    refine ensures_bind (sound_optional _) fun _ _ => ensures_ite ?_ ?_
    · refine ensures_bind ih fun element helement => ensures_bind (sound_symbol _) fun _ _ => ?_
      exact ensures_bind (ensures_pure (P := fun inner => inner.isNonNull = false ∧
        inner.isGrammatical) ⟨rfl, helement⟩) hbang
    · exact ensures_bind (ensures_name.map fun _ _ => ⟨rfl, rfl⟩) hbang

theorem isGrammatical_of_readTypeRef {s : String} {t : TypeRef} (h : readTypeRef s = .ok t) :
    t.isGrammatical :=
  of_readAll (ensures_bind sound_bound fun _ _ => ensures_typeRefWithin_isGrammatical _) h

end Sdl.Parse

/-! ### Writing a descriptor as a reference -/

namespace Descriptor

/-- A reference that admits null or not. -/
def marked (nullable : Bool) (t : TypeRef) : TypeRef :=
  if nullable then t else .nonNull t

/-- The reference that says all of a descriptor but the kind of its named type. -/
def reference : Descriptor → TypeRef
  | leaf _ name n => marked n (.named name)
  | list element n => marked n (.list element.reference)

/-- Whether null is admitted at each level, the outermost first. -/
def levels : Descriptor → List Bool
  | leaf _ _ n => [n]
  | list element n => n :: element.levels

theorem levels_ne_nil (d : Descriptor) : d.levels ≠ [] := by
  cases d <;> simp [levels]

theorem innermost_eq (d : Descriptor) : ∃ nullable, d.innermost = .leaf d.kind d.name nullable := by
  induction d with
  | leaf kind name nullable => exact ⟨nullable, rfl⟩
  | list element nullable ih => exact ih

end Descriptor

namespace Resolver

open Descriptor (marked)

variable (r : Resolver)

/-- Resolving is undone by writing, at every level below one that was marked before. -/
theorem reference_resolve (nullable : Bool) {t : TypeRef} (h : t.isGrammatical)
    (hmarked : nullable = false → t.isNonNull = false) :
    (r.resolve nullable t).reference = marked nullable t := by
  induction t generalizing nullable with
  | named name => rfl
  | list of ih =>
    have hof : (r.resolve true of).reference = of := ih true h (by simp)
    rw [resolve, Descriptor.reference, hof]
  | nonNull of ih =>
    simp only [TypeRef.isGrammatical, Bool.and_eq_true, Bool.not_eq_true'] at h
    have hnullable : nullable = true := by
      cases nullable with
      | true => rfl
      | false => exact absurd (hmarked rfl) (by simp [TypeRef.isNonNull])
    rw [resolve, ih false h.2 fun _ => h.1, hnullable]
    rfl

theorem name_resolve (nullable : Bool) (t : TypeRef) : (r.resolve nullable t).name = t.name := by
  induction t generalizing nullable with
  | named name => rfl
  | list of ih => exact ih true
  | nonNull of ih => exact ih false

theorem nullable_resolve (nullable : Bool) (t : TypeRef) :
    (r.resolve nullable t).nullable = (nullable && !t.isNonNull) := by
  induction t generalizing nullable with
  | named name => simp [resolve, Descriptor.nullable, TypeRef.isNonNull]
  | list of ih => simp [resolve, Descriptor.nullable, TypeRef.isNonNull]
  | nonNull of ih =>
    rw [resolve, ih]
    simp [TypeRef.isNonNull]

/-- Nullability is that of the reference at each level, save that the outermost may be cleared from
outside. -/
theorem levels_resolve (nullable : Bool) (t : TypeRef) :
    (r.resolve nullable t).levels = if nullable then t.levels else false :: t.levels.tail := by
  induction t generalizing nullable with
  | named name => cases nullable <;> rfl
  | list of ih =>
    have hof : (r.resolve true of).levels = of.levels := ih true
    rw [resolve, Descriptor.levels, hof]
    cases nullable <;> rfl
  | nonNull of ih =>
    have hof : (r.resolve false of).levels = false :: of.levels.tail := ih false
    rw [resolve, hof]
    cases nullable <;> rfl

theorem innermost_resolve (nullable : Bool) (t : TypeRef) : ∃ inner,
    (r.resolve nullable t).innermost =
      .leaf (if t.name ∈ r.enums then .enum else if t.name ∈ r.scalars then .scalar else .object)
        t.name inner := by
  obtain ⟨inner, hinner⟩ := (r.resolve nullable t).innermost_eq
  refine ⟨inner, ?_⟩
  rw [hinner, kind_resolve, name_resolve, kindOf]
  simp only [List.contains_iff_mem]

end Resolver

/-! ### Trees of nodes -/

/-- The tree of a reference. -/
def Sdl.TypeRef.node : TypeRef → TypeNode
  | named name => .named name
  | list of => .list of.node
  | nonNull of => .nonNull of.node

/-- What a tree holds in the place of a name. -/
def TypeNode.other? : TypeNode → Option String
  | named _ => none
  | list of => of.other?
  | nonNull of => of.other?
  | other construct => some construct

theorem TypeNode.typeRef_node (t : TypeRef) : t.node.typeRef = .ok t := by
  induction t with
  | named name => rfl
  | list of ih => rw [TypeRef.node, typeRef, ih, Except.map]
  | nonNull of ih => rw [TypeRef.node, typeRef, ih, Except.map]

theorem TypeNode.typeRef_of_other? {node : TypeNode} {construct : String}
    (h : node.other? = some construct) :
    node.typeRef = .error (.unsupportedConstruct "type reference" (some construct)) := by
  induction node with
  | named name => cases h
  | list of ih => rw [typeRef, ih h, Except.map]
  | nonNull of ih => rw [typeRef, ih h, Except.map]
  | other construct =>
    obtain rfl := Option.some.inj h
    rfl

theorem Resolver.resolveNode_node (r : Resolver) (nullable : Bool) (t : TypeRef) :
    r.resolveNode nullable t.node = .ok (r.resolve nullable t) := by
  rw [resolveNode, TypeNode.typeRef_node, Except.map]

/-- A reference is resolved to a descriptor that is written as this very reference, with its list
levels and its nullability at each of them, so that no two references are resolved alike. The named
type under all levels is an enum if the name is known as one, else a scalar if known as one, else an
object. A tree with another construct in it is refused by the name of the construct. References that
were read from a text are among those that are written back. -/
theorem resolveNode_mirrors (r : Resolver) :
    (∀ t : TypeRef, t.isGrammatical → ∃ d, r.resolveNode true t.node = .ok d ∧ d.reference = t ∧
      d.levels = t.levels ∧ ∃ nullable, d.innermost =
        .leaf (if t.name ∈ r.enums then .enum else if t.name ∈ r.scalars then .scalar else .object)
          t.name nullable) ∧
    (∀ t u : TypeRef, t.isGrammatical → u.isGrammatical →
      r.resolveNode true t.node = r.resolveNode true u.node → t = u) ∧
    (∀ nullable node construct, TypeNode.other? node = some construct →
      r.resolveNode nullable node =
        .error (.unsupportedConstruct "type reference" (some construct))) ∧
    ∀ s t, readTypeRef s = .ok t → t.isGrammatical := by
  have hreference : ∀ t : TypeRef, t.isGrammatical → (r.resolve true t).reference = t :=
    fun t ht => r.reference_resolve true ht (by simp)
  refine ⟨fun t ht => ?_, fun t u ht hu heq => ?_, fun nullable node construct h => ?_,
    fun s t => Sdl.Parse.isGrammatical_of_readTypeRef⟩
  · exact ⟨r.resolve true t, r.resolveNode_node true t, hreference t ht, r.levels_resolve true t,
      r.innermost_resolve true t⟩
  · rw [r.resolveNode_node, r.resolveNode_node] at heq
    have hsame := congrArg Descriptor.reference (Except.ok.inj heq)
    rwa [hreference t ht, hreference u hu] at hsame
  · rw [Resolver.resolveNode, TypeNode.typeRef_of_other? h, Except.map]

/-- A name that is known as an enum and as a scalar, under lists of either nullability. -/
theorem resolveNode_mirrors_nested :
    let r : Resolver := ⟨["State"], ["Int", "State"]⟩
    let t : TypeRef := .list (.nonNull (.list (.list (.nonNull (.named "State")))))
    t.isGrammatical ∧
      (∃ d, r.resolveNode true t.node = .ok d ∧ d.reference = t ∧
        d.levels = [true, false, true, false] ∧
        ∃ nullable, d.innermost = .leaf .enum "State" nullable) ∧
      r.resolveNode true (.list (.nonNull (.other "FieldNode"))) =
        .error (.unsupportedConstruct "type reference" (some "FieldNode")) := by
  intro r t
  have ht : t.isGrammatical := by decide
  have hname : t.name ∈ r.enums := by decide
  obtain ⟨hwritten, -, hother, -⟩ := resolveNode_mirrors r
  obtain ⟨d, hd, hreference, hlevels, nullable, hinner⟩ := hwritten t ht
  rw [if_pos hname] at hinner
  exact ⟨ht, ⟨d, hd, hreference, hlevels, nullable, hinner⟩, hother true _ "FieldNode" rfl⟩

end SchemaClient
