import SchemaClient.Hook
import SchemaClient.Proofs.Text.Sorted
import SchemaClient.Proofs.Traced

/-! Filters as restrictions: a filter leaves the names that it keeps, and filters one after another
leave those that all of them keep, whatever their order and number. -/
namespace SchemaClient

namespace TypeFilter

/-! ### Pruning -/

theorem isEmpty_missing_iff {dropped : List String} {f : Field} :
    (missing dropped f).isEmpty ↔ ∀ n ∈ f.references, n ∉ dropped := by
  unfold missing
  rw [List.isEmpty_iff, List.filter_eq_nil_iff]
  simp

/-- Only the set of dropped names counts. -/
theorem prune_congr {as bs : List String} (h : ∀ n, n ∈ as ↔ n ∈ bs) : prune as = prune bs := by
  funext c
  unfold prune
  congr 1
  refine List.filter_congr fun f _ => ?_
  rw [Bool.eq_iff_iff, isEmpty_missing_iff, isEmpty_missing_iff]
  simp only [h]

theorem prune_nil (c : Class) : prune [] c = c := by
  have hfields : c.fields.filter (fun f => (missing [] f).isEmpty) = c.fields := by
    refine List.filter_eq_self.mpr fun f _ => ?_
    exact isEmpty_missing_iff.mpr fun _ _ => List.not_mem_nil
  simp only [prune, hfields]

theorem prune_prune (as bs : List String) (c : Class) :
    prune bs (prune as c) = prune (as ++ bs) c := by
  unfold prune
  simp only [List.filter_filter]
  congr 1
  refine List.filter_congr fun f _ => ?_
  rw [Bool.eq_iff_iff, Bool.and_eq_true, isEmpty_missing_iff, isEmpty_missing_iff,
    isEmpty_missing_iff]
  constructor
  · rintro ⟨hbs, has⟩ n hn hmem
    rcases List.mem_append.mp hmem with hmem | hmem
    · exact has n hn hmem
    · exact hbs n hn hmem
  · intro h
    exact ⟨fun n hn hmem => h n hn (List.mem_append_right _ hmem),
      fun n hn hmem => h n hn (List.mem_append_left _ hmem)⟩

theorem isPrunable_prune {c : Class} (h : isPrunable c) (dropped : List String) :
    isPrunable (prune dropped c) := by
  unfold isPrunable prune at *
  rw [List.all_eq_true] at *
  intro f hf
  exact h f (List.mem_filter.mp hf).1

end TypeFilter

/-! ### Restrictions -/

namespace Model

/-- Every type that the model mentions is one that clients model: a scalar, an enum or an object. -/
def isTyped (m : Model) : Bool :=
  m.classes.all TypeFilter.isPrunable

def isRoot (m : Model) (name : String) : Bool :=
  some name == m.queryType || some name == m.mutationType

/-- The names of all definitions that a filter may drop. A root stays, but not an input or enum of
its name. -/
def droppable (m : Model) : List String :=
  (m.types.map Class.name).filter (fun n => !m.isRoot n) ++ m.inputs.map Class.name ++
    m.enums.map Enum.name

def droppedBy (keeps : String → Bool) (m : Model) : List String :=
  m.droppable.filter fun n => !keeps n

/-- What is left of a model where `keeps` says which names stay. -/
def restrict (keeps : String → Bool) (m : Model) : Model :=
  { m with
    types := (m.types.filter fun c => m.isRoot c.name || keeps c.name).map
      (TypeFilter.prune (m.droppedBy keeps))
    inputs := (m.inputs.filter fun c => keeps c.name).map (TypeFilter.prune (m.droppedBy keeps))
    enums := m.enums.filter fun e => keeps e.name }

theorem mem_droppedBy {keeps : String → Bool} {m : Model} {n : String} :
    n ∈ m.droppedBy keeps ↔ n ∈ m.droppable ∧ keeps n = false := by
  simp [droppedBy]

theorem mem_droppable {m : Model} {n : String} :
    n ∈ m.droppable ↔ n ∈ m.types.map Class.name ∧ m.isRoot n = false ∨
      n ∈ m.inputs.map Class.name ∨ n ∈ m.enums.map Enum.name := by
  simp only [droppable, List.mem_append, List.mem_filter, Bool.not_eq_true', or_assoc]

section Names

variable (keeps : String → Bool) (m : Model)

theorem types_restrict_names : (m.restrict keeps).types.map Class.name =
    (m.types.map Class.name).filter fun n => m.isRoot n || keeps n := by
  simp only [restrict, List.map_map, List.filter_map]
  rfl

theorem inputs_restrict_names :
    (m.restrict keeps).inputs.map Class.name = (m.inputs.map Class.name).filter keeps := by
  simp only [restrict, List.map_map, List.filter_map]
  rfl

theorem enums_restrict_names :
    (m.restrict keeps).enums.map Enum.name = (m.enums.map Enum.name).filter keeps := by
  simp only [restrict, List.filter_map]
  rfl

theorem isRoot_restrict : (m.restrict keeps).isRoot = m.isRoot := rfl

end Names

/-- A restriction leaves of the droppable names those that it keeps. -/
theorem mem_droppable_restrict {keeps : String → Bool} {m : Model} {n : String} :
    n ∈ (m.restrict keeps).droppable ↔ n ∈ m.droppable ∧ keeps n := by
  rw [mem_droppable, mem_droppable, types_restrict_names, inputs_restrict_names,
    enums_restrict_names, isRoot_restrict]
  simp only [List.mem_filter, Bool.or_eq_true]
  grind

/-- Restricting twice is restricting to the names that are kept both times. -/
theorem restrict_restrict (keeps keeps' : String → Bool) (m : Model) :
    (m.restrict keeps).restrict keeps' = m.restrict fun n => keeps n && keeps' n := by
  -- what the second one drops was still there after the first one, so that the fields lose no more
  -- than the names dropped by either
  have hdropped : ∀ n, n ∈ m.droppedBy keeps ++ (m.restrict keeps).droppedBy keeps' ↔
      n ∈ m.droppedBy fun n => keeps n && keeps' n := by
    intro n
    rw [List.mem_append, mem_droppedBy, mem_droppedBy, mem_droppedBy, mem_droppable_restrict]
    cases keeps n <;> cases keeps' n <;> simp
  have hprune := TypeFilter.prune_congr hdropped
  have hcomp : TypeFilter.prune ((m.restrict keeps).droppedBy keeps') ∘
      TypeFilter.prune (m.droppedBy keeps) =
        TypeFilter.prune (m.droppedBy fun n => keeps n && keeps' n) := by
    rw [← hprune]
    funext c
    exact TypeFilter.prune_prune _ _ c
  have htypes : ((m.restrict keeps).restrict keeps').types =
      (m.restrict fun n => keeps n && keeps' n).types := by
    show List.map _ (List.filter _ (List.map _ _)) = List.map _ _
    rw [List.filter_map, List.map_map, hcomp, List.filter_filter]
    congr 1
    refine List.filter_congr fun c _ => ?_
    show ((m.isRoot c.name || keeps' c.name) && (m.isRoot c.name || keeps c.name)) = _
    cases m.isRoot c.name <;> simp [Bool.and_comm]
  have hinputs : ((m.restrict keeps).restrict keeps').inputs =
      (m.restrict fun n => keeps n && keeps' n).inputs := by
    show List.map _ (List.filter _ (List.map _ _)) = List.map _ _
    rw [List.filter_map, List.map_map, hcomp, List.filter_filter]
    congr 1
    refine List.filter_congr fun c _ => ?_
    exact Bool.and_comm _ _
  have henums : ((m.restrict keeps).restrict keeps').enums =
      (m.restrict fun n => keeps n && keeps' n).enums := by
    show List.filter _ (List.filter _ _) = List.filter _ _
    rw [List.filter_filter]
    exact List.filter_congr fun e _ => Bool.and_comm _ _
  show Model.mk _ _ _ _ _ _ _ _ = Model.mk _ _ _ _ _ _ _ _
  exact congr (congr (congr (congrArg _ htypes) hinputs) henums) rfl

theorem restrict_true (m : Model) : m.restrict (fun _ => true) = m := by
  have hdropped : m.droppedBy (fun _ => true) = [] := by simp [droppedBy]
  have hprune : TypeFilter.prune [] = id := by
    funext c
    exact TypeFilter.prune_nil c
  simp [restrict, hdropped, hprune]

theorem isTyped_restrict {m : Model} (h : m.isTyped) (keeps : String → Bool) :
    (m.restrict keeps).isTyped := by
  simp only [isTyped, classes, restrict, List.all_append, List.all_map, List.all_eq_true,
    Bool.and_eq_true, Function.comp_apply, List.mem_filter] at h ⊢
  exact ⟨fun c hc => TypeFilter.isPrunable_prune (h.1 c hc.1) _,
    fun c hc => TypeFilter.isPrunable_prune (h.2 c hc.1) _⟩

end Model

/-! ### Filters -/

namespace TypeFilter

variable (f : TypeFilter) (m : Model)

theorem mem_dropped {n : String} : n ∈ f.dropped m ↔ n ∈ m.droppedBy f.keeps := by
  rw [Model.mem_droppedBy, Model.mem_droppable]
  simp only [dropped, List.mem_append, List.mem_map, List.mem_filter, keepsClass, Model.isRoot]
  grind

theorem apply_eq_restrict : f.apply m = m.restrict f.keeps := by
  have hprune : prune (f.dropped m) = prune (m.droppedBy f.keeps) :=
    prune_congr fun _ => f.mem_dropped m
  simp only [apply, hprune]
  rfl

variable {m}

theorem stops_eq_false (h : m.isTyped) : f.stops m = false := by
  have hkept : (f.keptTypes m ++ f.keptInputs m).all isPrunable := by
    simp only [Model.isTyped, Model.classes, keptTypes, keptInputs, List.all_append,
      List.all_eq_true, Bool.and_eq_true, List.mem_filter] at h ⊢
    exact ⟨fun c hc => h.1 c hc.1, fun c hc => h.2 c hc.1⟩
  simp [stops, hkept]

theorem result_runPre (h : m.isTyped) :
    ((Hook.filter f).runPre m).result = .ok (m.restrict f.keeps) := by
  simp [Hook.runPre, Hook.filter, f.stops_eq_false h, apply_eq_restrict]

end TypeFilter

/-! ### Sequences of filters -/

namespace Hooks

/-- Filters that run one after another restrict the model to the names that all of them keep. -/
theorem result_runPre_filters {m : Model} (h : m.isTyped) (fs : List TypeFilter)
    (post : List Hook) :
    (Hooks.runPre ⟨fs.map .filter, post⟩ m).result =
      .ok (m.restrict fun n => fs.all fun f => f.keeps n) := by
  unfold runPre
  induction fs generalizing m with
  | nil => simp [Model.restrict_true]
  | cons f rest ih =>
    rw [List.map_cons, List.foldlM_cons, Traced.result_bind, f.result_runPre h]
    show Traced.result _ = _
    rw [ih (Model.isTyped_restrict h f.keeps), Model.restrict_restrict]
    rfl

theorem leave_of_result_runPre {hs : Hooks} {m changed : Model}
    (h : (hs.runPre m).result = .ok changed) : hs.leave m = changed := by
  obtain ⟨pre, post⟩ := hs
  unfold runPre at h
  unfold leave
  induction pre generalizing m with
  | nil => exact Except.ok.inj h
  | cons hook rest ih =>
    rw [List.foldlM_cons] at h
    obtain ⟨next, hnext, hrest⟩ := Traced.result_bind_eq_ok.mp h
    rw [leave.go, hnext]
    exact ih hrest

end Hooks

/-- Filters commute, and each of them changes nothing when it runs again: hooks that are the same
filters, in whatever order and however often, make and leave behind the same model. -/
theorem runPre_filters_eq {m : Model} (hm : m.isTyped) :
    (∀ f g : TypeFilter, g.apply (f.apply m) = f.apply (g.apply m)) ∧
    (∀ f : TypeFilter, f.apply (f.apply m) = f.apply m) ∧
    ∀ (fs gs : List TypeFilter) (post post' : List Hook), (∀ f, f ∈ fs ↔ f ∈ gs) →
      ∃ m', (Hooks.runPre ⟨fs.map .filter, post⟩ m).result = .ok m' ∧
        (Hooks.runPre ⟨gs.map .filter, post'⟩ m).result = .ok m' ∧
        Hooks.leave ⟨fs.map .filter, post⟩ m = m' ∧ Hooks.leave ⟨gs.map .filter, post'⟩ m = m' := by
  refine ⟨fun f g => ?_, fun f => ?_, fun fs gs post post' hsame => ?_⟩
  · simp only [TypeFilter.apply_eq_restrict, Model.restrict_restrict, Bool.and_comm]
  · simp only [TypeFilter.apply_eq_restrict, Model.restrict_restrict, Bool.and_self]
  · have hkeeps : (fun n => gs.all fun f => f.keeps n) = fun n => fs.all fun f => f.keeps n := by
      funext n
      rw [Bool.eq_iff_iff, List.all_eq_true, List.all_eq_true]
      simp only [hsame]
    have hfs := Hooks.result_runPre_filters hm fs post
    have hgs := Hooks.result_runPre_filters hm gs post'
    rw [hkeeps] at hgs
    exact ⟨_, hfs, hgs, Hooks.leave_of_result_runPre hfs, Hooks.leave_of_result_runPre hgs⟩

/-- An object type and an input of one name, of which the object is the root. -/
def sharedName : Model where
  namespaceName := "Demo"
  clientName := "Client"
  queryType := some "Query"
  types := [
    { name := "Query"
      fields := [
        { name := "age", wireName := "age", type := .leaf .scalar "Int" true },
        { name := "users", wireName := "users", type := .list (.leaf .object "_User" true) false },
        { name := "role"
          wireName := "role"
          type := .leaf .enum "Role" true
          arguments := [
            { name := "of"
              wireName := "of"
              hint := "Query"
              type := some (.leaf .object "Query" false) }] }] },
    { name := "_User" }]
  inputs := [{ name := "Query", isInput := true }]
  enums := [{ name := "Role" }]

/-- One filter drops an object, the other one the input, in either order. -/
theorem runPre_filters_eq_sharedName :
    let f : TypeFilter := { excludeStart := some "_" }
    let g : TypeFilter := { includeEnd := some "e" }
    sharedName.isTyped ∧
      ∃ m', (Hooks.runPre ⟨[f, g].map .filter, []⟩ sharedName).result = .ok m' ∧
        (Hooks.runPre ⟨[g, f, g].map .filter, []⟩ sharedName).result = .ok m' ∧
        m'.classes.map (fun c => (c.name, c.fields.map Field.name)) = [("Query", ["age"])] ∧
        m'.enums.map Enum.name = ["Role"] := by
  intro f g
  have hm : sharedName.isTyped := by decide
  have hsame : ∀ h, h ∈ [f, g] ↔ h ∈ [g, f, g] := by
    intro h
    simp only [List.mem_cons, List.not_mem_nil, or_false]
    tauto
  obtain ⟨m', hfg, hgfg, -⟩ := (runPre_filters_eq hm).2.2 [f, g] [g, f, g] [] [] hsame
  have hvalue : (Hooks.runPre ⟨[f, g].map .filter, []⟩ sharedName).result.toOption.map (fun m' =>
      (m'.classes.map (fun c => (c.name, c.fields.map Field.name)), m'.enums.map Enum.name)) =
        some ([("Query", ["age"])], ["Role"]) := by
    decide +kernel
  rw [toOption_eq_some_iff.mpr hfg, Option.map_some, Option.some.injEq, Prod.mk.injEq] at hvalue
  exact ⟨hm, m', hfg, hgfg, hvalue⟩

end SchemaClient
