import SchemaClient.Proofs.Expression.Projection
import SchemaClient.Proofs.Model.Members

/-! Parameters of accessors: one for each argument of the field and one for the selector, all of
different names. The selector is none of the variables that the body loops over. -/
namespace SchemaClient

open Sdl

/-! ### Loop variables -/

/-- The variables that an expression loops over, the outermost first. -/
def Expr.items : Expr → List String
  | atom _ => []
  | call _ argument => argument.items
  | ifPresent subject value => subject.items ++ value.items
  | each body item source => source.items ++ item :: body.items

namespace Descriptor

/-- How many lists a value stands in. -/
def listLevels : Descriptor → ℕ
  | leaf .. => 0
  | list element _ => element.listLevels + 1

theorem items_guarded (n : Bool) (name : String) (value : Expr) :
    (guarded n (.atom name) value).items = value.items := by
  cases n <;> rfl

/-- A projection has one loop for each list level, with the variable of that level. -/
theorem items_project {d : Descriptor} (h : d.requiresSelector) (selector : String) (depth : ℤ)
    (subject : String) :
    (d.project selector depth (.atom subject)).items =
      (List.range d.listLevels).map fun k : ℕ => itemName (depth + k) := by
  induction d generalizing depth subject with
  | leaf kind name n =>
    obtain rfl : kind = .object := of_decide_eq_true h
    exact items_guarded n subject _
  | list element n ih =>
    have helement : element.requiresSelector := h
    have hproject : (list element n).project selector depth (.atom subject) =
        guarded n (.atom subject) (.each (element.project selector (depth + 1)
          (.atom (itemName depth))) (itemName depth) (.atom subject)) := if_pos helement
    rw [hproject, items_guarded, Expr.items, ih helement, listLevels, List.range_succ_eq_map]
    simp [Expr.items, Function.comp_def, add_assoc, add_comm (1 : ℤ)]

end Descriptor

/-! ### Arguments -/

namespace Model

/-- The name that the parameter of an argument is to have; the object itself is called `self`. -/
def parameterName (wire : String) : String :=
  if Name.memberName wire == "self" then "self_" else Name.memberName wire

variable (c : Context) (taken : List String)

theorem buildArguments_forall₂ (arguments : List InputValue) :
    List.Forall₂ (fun a built =>
        (∃ before, built.name = Name.unique before (parameterName a.name)) ∧
          built.hint = (c.resolver.resolve true a.type).hint c.scalars)
      arguments (buildArguments c taken arguments) := by
  induction arguments generalizing taken with
  | nil => exact .nil
  | cons a rest ih => exact .cons ⟨⟨taken, rfl⟩, rfl⟩ (ih _)

/-- Whatever parameters are called is new, and given once. -/
theorem buildArguments_names (arguments : List InputValue) :
    ((buildArguments c taken arguments).map Argument.name).Nodup ∧
      ∀ n ∈ (buildArguments c taken arguments).map Argument.name, n ∉ taken := by
  induction arguments generalizing taken with
  | nil => simp [buildArguments]
  | cons a rest ih =>
    let name := Name.unique taken (parameterName a.name)
    have hname : name ∉ taken := Name.unique_not_mem _ _
    obtain ⟨hnodup, hnew⟩ := ih (name :: taken)
    rw [buildArguments, List.map_cons]
    refine ⟨List.nodup_cons.mpr ⟨fun hmem => hnew _ hmem List.mem_cons_self, hnodup⟩, ?_⟩
    exact List.forall_mem_cons.mpr ⟨hname, fun n hn ht => hnew n hn (List.mem_cons_of_mem _ ht)⟩

theorem buildObjectFields_forall₂ (members : List ObjectField) :
    List.Forall₂ (fun v f => ∃ before, f = buildObjectField c before v)
      members (buildObjectFields c taken members) := by
  induction members generalizing taken with
  | nil => exact .nil
  | cons v rest ih => exact .cons ⟨taken, rfl⟩ (ih _)

end Model

/-! ### Methods -/

namespace Module

theorem selectorName_not_mem (arguments : List String) : selectorName arguments ∉ arguments := by
  unfold selectorName
  split_ifs with h
  · exact Name.unique_not_mem _ _
  · simpa using h

theorem selectorName_ne_self (arguments : List String) : selectorName arguments ≠ "self" := by
  rcases Expression.selectorName_eq arguments with h | h | ⟨k, h⟩
  · rw [h]; decide
  · rw [h]; decide
  · rw [h]
    intro heq
    simpa using congrArg (fun s => s.toList.head?) heq

/-- The object, then the arguments, then the selector where one is needed. -/
theorem parameters_accessor (scalars : ScalarRegistry) (f : Field) :
    (accessor scalars f).parameters = { name := "self" } ::
      f.arguments.map (fun a => { name := a.name, hint := some a.hint }) ++
        if f.type.requiresSelector then
          [{ name := selectorName (f.arguments.map Argument.name)
             hint := "typing.Callable[[" ++ f.type.name ++ "], T]" }]
        else [] := by
  unfold accessor
  split_ifs
  · rfl
  · exact (List.append_nil _).symm

theorem parameters_accessor_nodup (scalars : ScalarRegistry) {f : Field}
    (hnodup : (f.arguments.map Argument.name).Nodup)
    (hself : "self" ∉ f.arguments.map Argument.name) :
    ((accessor scalars f).parameters.map Parameter.name).Nodup := by
  have hselector := selectorName_not_mem (f.arguments.map Argument.name)
  have hne := selectorName_ne_self (f.arguments.map Argument.name)
  rw [parameters_accessor]
  split_ifs
  · simp only [List.map_append, List.map_cons, List.map_map, List.map_nil, List.cons_append]
    refine List.nodup_cons.mpr ⟨?_, List.nodup_append.mpr ⟨hnodup, List.nodup_singleton _, ?_⟩⟩
    · rw [List.mem_append, List.mem_singleton, not_or]
      exact ⟨hself, hne.symm⟩
    · rintro a ha b hb rfl
      exact hselector (List.mem_singleton.mp hb ▸ ha)
  · rw [List.append_nil, List.map_cons, List.map_map]
    exact List.nodup_cons.mpr ⟨hself, hnodup⟩

end Module

/-- Each accessor of an object has a method with one parameter for each argument of its field, in
order, after its name and with its type, between the object itself and the selector, which is there
just if something is to be selected. No two parameters have the same name. The body loops over one
variable for each list level, and the selector is called like none of them. -/
theorem accessorParameters_of_build {d : Schema.Document} {scalars : ScalarRegistry}
    {namespaceName : String} {clientName : Option String} {m : Model}
    (hm : (Model.build d scalars namespaceName clientName).result = .ok m) :
    List.Forall₂ (fun (b : Block ObjectField) (c : Class) =>
        c.name = b.name ∧
        (Module.declare scalars m c).methods =
          (c.fields.filter Field.isAccessor).map (Module.accessor scalars) ∧
        List.Forall₂ (fun (v : ObjectField) (f : Field) =>
            f.wireName = v.name ∧
            let method := Module.accessor scalars f
            ∃ (arguments : List Module.Parameter) (selector : String),
              List.Forall₂ (fun (a : InputValue) (p : Module.Parameter) =>
                  (∃ before, p.name = Name.unique before (Model.parameterName a.name)) ∧
                  p.hint = some (((Resolver.ofDocument d).resolve true a.type).hint scalars))
                v.arguments arguments ∧
              method.parameters = { name := "self" } :: arguments ++
                (if f.type.requiresSelector then
                  [{ name := selector, hint := "typing.Callable[[" ++ f.type.name ++ "], T]" }]
                else []) ∧
              (method.parameters.map Module.Parameter.name).Nodup ∧
              method.body = f.type.project selector 0 (.atom ("self." ++ f.backingName)) ∧
              (∀ depth, selector ≠ itemName depth) ∧
              (f.type.requiresSelector = true → method.body.items =
                (List.range f.type.listLevels).map fun k : ℕ => itemName k))
          b.members c.fields)
      d.objects m.types := by
  rw [Model.types_of_build hm, List.forall₂_map_right_iff, List.forall₂_same]
  intro b _
  let ctx := Model.context d scalars
  refine ⟨rfl, rfl, (Model.buildObjectFields_forall₂ ctx [] b.members).imp ?_⟩
  rintro v f ⟨before, hf⟩
  have harguments : f.arguments = Model.buildArguments ctx ["self"] v.arguments := by rw [hf]; rfl
  obtain ⟨hnodup, hself⟩ := Model.buildArguments_names ctx ["self"] v.arguments
  have hpaired := Model.buildArguments_forall₂ ctx ["self"] v.arguments
  rw [← harguments] at hnodup hself hpaired
  refine ⟨by rw [hf]; rfl, _, _, ?_, Module.parameters_accessor scalars f,
    Module.parameters_accessor_nodup scalars hnodup fun hmem => hself _ hmem List.mem_cons_self,
    accessor_body scalars f, Expression.selectorName_ne_itemName _, fun hselector => ?_⟩
  · rw [List.forall₂_map_right_iff]
    exact hpaired.imp fun _ _ h => ⟨h.1, congrArg some h.2⟩
  · rw [accessor_body, Descriptor.items_project hselector]
    simp

/-- Arguments called like the object and the selector, some of them repeated, on a value in
lists. -/
def adverseArguments : String :=
  "schema\x7bquery:Q\x7d type Q\x7ba(self:Int _self:Int selector:Int field_selector:[Q!]" ++
    " item:Int x:Int x:Int X:Int):[[Q]]!\x7d"

theorem accessorParameters_of_build_adverse :
    ∃ d m, (Schema.read adverseArguments).result = .ok d ∧
      (Model.build d .standard "Demo" none).result = .ok m ∧
      (m.types.flatMap fun c => c.fields.map fun f =>
        ((Module.accessor .standard f).parameters.map Module.Parameter.name,
          (Module.accessor .standard f).body.items)) =
        [(["self", "self_", "self_2", "selector", "field_selector", "item", "x", "x_2", "x_3",
          "field_selector_2"], ["item", "item1"])] ∧
      ∀ c ∈ m.types, ∀ f ∈ c.fields,
        ((Module.accessor .standard f).parameters.map Module.Parameter.name).Nodup := by
  obtain ⟨d, m, hd, hm, hview⟩ := Traced.exists_of_view (x := Schema.read adverseArguments)
    (f := fun d => Model.build d .standard "Demo" none)
    (g := fun _ m => m.types.flatMap fun c => c.fields.map fun f =>
      ((Module.accessor .standard f).parameters.map Module.Parameter.name,
        (Module.accessor .standard f).body.items))
    (v := [(["self", "self_", "self_2", "selector", "field_selector", "item", "x", "x_2", "x_3",
      "field_selector_2"], ["item", "item1"])])
    (by decide +kernel)
  refine ⟨d, m, hd, hm, hview, fun c hc f hf => ?_⟩
  obtain ⟨b, -, -, -, hfields⟩ := exists_of_forall₂_right (accessorParameters_of_build hm) hc
  obtain ⟨v, -, -, arguments, selector, -, -, hnodup, -⟩ := exists_of_forall₂_right hfields hf
  exact hnodup

end SchemaClient
