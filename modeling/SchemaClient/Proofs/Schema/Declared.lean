import SchemaClient.Proofs.Name.Member
import SchemaClient.Proofs.Schema.Merge

/-! The document that definitions declare, said without their order of arrival: each type gathers all
of its blocks. Merging the definitions one after another ends at this document. -/
namespace SchemaClient

open Sdl

/-! ### Parts of a document -/

namespace Sdl.Definition

def objectBlock? : Definition → Option (Block ObjectField)
  | .object block _ => some block
  | _ => none

def inputBlock? : Definition → Option (Block InputValue)
  | .input block => some block
  | _ => none

def enumBlock? : Definition → Option (Block EnumValue)
  | .enum block => some block
  | _ => none

def scalar? : Definition → Option String
  | .scalar name => some name
  | _ => none

def isSchema : Definition → Bool
  | .schema _ => true
  | _ => false

def schemaRoots : Definition → List RootType
  | .schema roots => roots
  | _ => []

def extensionRoots : Definition → List RootType
  | .schemaExtension roots => roots
  | _ => []

end Sdl.Definition

namespace Schema

/-- The type of a name: the members of all its blocks, of each name the first, and the description
that was given last. -/
def gather {μ : Type} (name : μ → String) (blocks : List (Block μ)) (type : String) : Block μ :=
  let own := blocks.filter fun b => b.name == type
  { name := type
    description := (own.filterMap Block.description).getLast?
    members := (own.flatMap Block.members).eraseDupsBy fun m p => name m == name p }

/-- The types that blocks declare, in order of first appearance. -/
def collect {μ : Type} (name : μ → String) (blocks : List (Block μ)) : List (Block μ) :=
  (blocks.map Block.name).eraseDups.map (gather name blocks)

/-- The roots of the first schema block and of all extensions, in their order. -/
def countedRoots (definitions : List Definition) : List RootType :=
  let fromSchema := definitions.dropWhile fun x => !x.isSchema
  (definitions.takeWhile fun x => !x.isSchema).flatMap Definition.extensionRoots ++
    (fromSchema.take 1).flatMap Definition.schemaRoots ++
    (fromSchema.drop 1).flatMap Definition.extensionRoots

/-- The first root of an operation. -/
def firstRoot? (operation : Operation) (roots : List RootType) : Option String :=
  (roots.find? fun root => root.operation = operation).map RootType.type

def Document.declared (definitions : List Definition) : Document where
  objects := collect ObjectField.name (definitions.filterMap Definition.objectBlock?)
  inputs := collect InputValue.name (definitions.filterMap Definition.inputBlock?)
  enums := collect EnumValue.name (definitions.filterMap Definition.enumBlock?)
  scalars := (definitions.filterMap Definition.scalar?).eraseDups
  queryType := firstRoot? .query (countedRoots definitions)
  mutationType := firstRoot? .mutation (countedRoots definitions)

/-! ### Members -/

section Members

variable {μ : Type} (name : μ → String)

theorem addMembers_append (present first second : List μ) :
    addMembers name present (first ++ second) =
      addMembers name (addMembers name present first) second := by
  induction first generalizing present with
  | nil => rfl
  | cons m rest ih =>
    rw [List.cons_append, addMembers, addMembers]
    split_ifs <;> exact ih _

theorem addMembers_eq (present new : List μ) :
    addMembers name present new =
      present ++ (new.filter fun m => !present.any fun p => name p == name m).eraseDupsBy
        fun m p => name m == name p := by
  induction new generalizing present with
  | nil => simp [addMembers]
  | cons m rest ih =>
    rw [addMembers]
    split_ifs with hm
    · rw [ih, List.filter_cons_of_neg (by simp [hm])]
    · rw [ih, List.filter_cons_of_pos (by simp [hm]), List.eraseDupsBy_cons, List.filter_filter,
        List.append_assoc, List.singleton_append]
      congr 3
      refine List.filter_congr fun p _ => ?_
      by_cases hp : name m = name p
      · simp [hp]
      · simp [hp, Ne.symm hp]

/-- Members added to nothing are the first of each name. -/
theorem addMembers_nil (new : List μ) :
    addMembers name [] new = new.eraseDupsBy fun m p => name m == name p := by
  simp [addMembers_eq]

end Members

/-! ### Types -/

section Types

variable {μ : Type} (name : μ → String) (blocks : List (Block μ)) (new : Block μ)

theorem gather_append_of_ne {type : String} (h : new.name ≠ type) :
    gather name (blocks ++ [new]) type = gather name blocks type := by
  simp [gather, h]

/-- A type takes in a block that comes behind its others. -/
theorem gather_append_self :
    gather name (blocks ++ [new]) new.name = absorb name (gather name blocks new.name) new := by
  have hmembers : ∀ own : List (Block μ),
      ((own ++ [new]).flatMap Block.members).eraseDupsBy (fun m p => name m == name p) =
        addMembers name ((own.flatMap Block.members).eraseDupsBy fun m p => name m == name p)
          new.members := by
    intro own
    rw [List.flatMap_append, List.flatMap_singleton, ← addMembers_nil, ← addMembers_nil,
      addMembers_append]
  have hdescription : ∀ own : List (Block μ),
      ((own ++ [new]).filterMap Block.description).getLast? =
        new.description.or (own.filterMap Block.description).getLast? := by
    intro own
    cases hnew : new.description <;> simp [hnew]
  simp only [gather, absorb, List.filter_append, List.filter_cons, List.filter_nil, beq_self_eq_true,
    if_true, hmembers, hdescription]

/-- Of the types in a list, a block changes the one of its name. -/
theorem addBlock_of_mem (hnodup : (blocks.map Block.name).Nodup)
    (hmem : new.name ∈ blocks.map Block.name) :
    addBlock name new blocks =
      blocks.map fun b => if b.name = new.name then absorb name b new else b := by
  induction blocks with
  | nil => cases hmem
  | cons b rest ih =>
    obtain ⟨hb, hrest⟩ := List.nodup_cons.mp hnodup
    rw [List.map_cons, addBlock]
    by_cases h : b.name = new.name
    · have hother : ∀ other ∈ rest, ¬ other.name = new.name := by
        intro other hin hname
        exact hb (List.mem_map.mpr ⟨other, hin, hname.trans h.symm⟩)
      rw [if_pos (beq_iff_eq.mpr h), if_pos h, List.map_congr_left fun other hin =>
        if_neg (hother other hin), List.map_id']
    · rw [if_neg (by simpa using h), if_neg h, ih hrest]
      exact (List.mem_cons.mp hmem).resolve_left (Ne.symm h)

theorem addBlock_of_not_mem (h : new.name ∉ blocks.map Block.name) :
    addBlock name new blocks = blocks ++ [absorb name { name := new.name } new] := by
  induction blocks with
  | nil => rfl
  | cons b rest ih =>
    rw [List.map_cons, List.mem_cons, not_or] at h
    rw [addBlock, if_neg (by simpa using Ne.symm h.1), ih h.2]
    rfl

theorem eraseDups_append_singleton {α : Type} [BEq α] [LawfulBEq α] (as : List α) (a : α) :
    (as ++ [a]).eraseDups = if a ∈ as then as.eraseDups else as.eraseDups ++ [a] := by
  rw [List.eraseDups_append]
  by_cases h : a ∈ as <;> simp [List.removeAll, List.eraseDups_cons, h]

theorem nodup_eraseDups {α : Type} [BEq α] [LawfulBEq α] (as : List α) : as.eraseDups.Nodup := by
  induction as using List.reverseRecOn with
  | nil => simp
  | append_singleton as a ih =>
    rw [eraseDups_append_singleton]
    split_ifs with ha
    · exact ih
    · exact List.nodup_append_comm.mp (List.nodup_cons.mpr ⟨by simpa using ha, ih⟩)

theorem collect_names : (collect name blocks).map Block.name = (blocks.map Block.name).eraseDups := by
  rw [collect, List.map_map]
  exact List.map_id _

theorem collect_append : collect name (blocks ++ [new]) = addBlock name new (collect name blocks) := by
  have hother : ∀ n, n ≠ new.name → gather name (blocks ++ [new]) n = gather name blocks n :=
    fun n hn => gather_append_of_ne name blocks new hn.symm
  have hnodup : ((collect name blocks).map Block.name).Nodup := by
    rw [collect_names]
    exact nodup_eraseDups _
  have hnames : new.name ∈ (collect name blocks).map Block.name ↔
      new.name ∈ blocks.map Block.name := by
    rw [collect_names, List.mem_eraseDups]
  by_cases hmem : new.name ∈ blocks.map Block.name
  · rw [addBlock_of_mem name _ new hnodup (hnames.mpr hmem)]
    unfold collect
    rw [List.map_append, List.map_singleton, eraseDups_append_singleton, if_pos hmem, List.map_map]
    refine List.map_congr_left fun n _ => ?_
    show gather name (blocks ++ [new]) n =
      if n = new.name then absorb name (gather name blocks n) new else gather name blocks n
    split_ifs with hn
    · rw [hn, gather_append_self]
    · exact hother n hn
  · have hnew : gather name blocks new.name = { name := new.name } := by
      have hown : (blocks.filter fun b => b.name == new.name) = [] := by
        simpa [List.filter_eq_nil_iff] using hmem
      simp [gather, hown]
    rw [addBlock_of_not_mem name _ new (hnames.not.mpr hmem)]
    unfold collect
    rw [List.map_append, List.map_singleton, eraseDups_append_singleton, if_neg hmem,
      List.map_append, List.map_singleton, gather_append_self, hnew]
    congr 1
    refine List.map_congr_left fun n hn => hother n ?_
    rintro rfl
    exact hmem (List.mem_eraseDups.mp hn)

end Types

/-! ### Roots -/

theorem firstRoot?_append (operation : Operation) (first second : List RootType) :
    firstRoot? operation (first ++ second) =
      (firstRoot? operation first).or (firstRoot? operation second) := by
  simp [firstRoot?, List.find?_append, Option.map_or]

theorem Document.addRoots_eq (d : Document) (roots : List RootType) :
    d.addRoots roots =
      { d with
        queryType := d.queryType.or (firstRoot? .query roots)
        mutationType := d.mutationType.or (firstRoot? .mutation roots) } := by
  unfold Document.addRoots
  induction roots generalizing d with
  | nil => simp [firstRoot?]
  | cons root rest ih =>
    rw [List.foldl_cons, ih]
    cases hroot : root.operation <;> simp [firstRoot?, hroot]

theorem countedRoots_cons (x : Definition) (rest : List Definition) :
    countedRoots (x :: rest) =
      if x.isSchema then x.schemaRoots ++ rest.flatMap Definition.extensionRoots
      else x.extensionRoots ++ countedRoots rest := by
  cases hx : x.isSchema <;> simp [countedRoots, hx]

/-- Behind the first schema block only extensions count. -/
theorem countedRoots_append (definitions : List Definition) (x : Definition) :
    countedRoots (definitions ++ [x]) = countedRoots definitions ++
      if definitions.any Definition.isSchema then x.extensionRoots
      else x.schemaRoots ++ x.extensionRoots := by
  induction definitions with
  | nil =>
    cases x <;> simp [countedRoots, Definition.isSchema, Definition.schemaRoots,
      Definition.extensionRoots]
  | cons first rest ih =>
    rw [List.cons_append, countedRoots_cons, countedRoots_cons, ih, List.any_cons]
    cases hfirst : first.isSchema
    · simp
    · simp

/-! ### The whole merge -/

theorem collect_filterMap_append {μ : Type} (name : μ → String)
    (block? : Definition → Option (Block μ)) (definitions : List Definition) (x : Definition) :
    collect name ((definitions ++ [x]).filterMap block?) =
      (block? x).elim (collect name (definitions.filterMap block?)) fun new =>
        addBlock name new (collect name (definitions.filterMap block?)) := by
  rw [List.filterMap_append]
  cases hx : block? x with
  | none => simp [hx]
  | some new =>
    have hone : [x].filterMap block? = [new] := by simp [hx]
    rw [hone, collect_append, Option.elim_some]

theorem eraseDups_filterMap_append (definitions : List Definition) (x : Definition) :
    ((definitions ++ [x]).filterMap Definition.scalar?).eraseDups =
      x.scalar?.elim (definitions.filterMap Definition.scalar?).eraseDups fun name =>
        let known := (definitions.filterMap Definition.scalar?).eraseDups
        if known.contains name then known else known ++ [name] := by
  rw [List.filterMap_append]
  cases hx : x.scalar? with
  | none => simp [hx]
  | some name =>
    have hone : [x].filterMap Definition.scalar? = [name] := by simp [hx]
    rw [hone, eraseDups_append_singleton, Option.elim_some]
    simp only [List.contains_iff_mem, List.mem_eraseDups]

/-- A definition changes the part of the document that its kind is for. -/
theorem Document.declared_append (definitions : List Definition) (x : Definition) :
    let d := Document.declared definitions
    let roots := if definitions.any Definition.isSchema then x.extensionRoots
      else x.schemaRoots ++ x.extensionRoots
    Document.declared (definitions ++ [x]) =
      { objects := x.objectBlock?.elim d.objects (addBlock ObjectField.name · d.objects)
        inputs := x.inputBlock?.elim d.inputs (addBlock InputValue.name · d.inputs)
        enums := x.enumBlock?.elim d.enums (addBlock EnumValue.name · d.enums)
        scalars := x.scalar?.elim d.scalars fun name =>
          if d.scalars.contains name then d.scalars else d.scalars ++ [name]
        queryType := d.queryType.or (firstRoot? .query roots)
        mutationType := d.mutationType.or (firstRoot? .mutation roots) } := by
  simp only [Document.declared, collect_filterMap_append, eraseDups_filterMap_append,
    countedRoots_append, firstRoot?_append]
  rfl

theorem Draft.add_declared (definitions : List Definition) (x : Definition) :
    Draft.add ⟨.declared definitions, definitions.any Definition.isSchema⟩ x =
      ⟨.declared (definitions ++ [x]), (definitions ++ [x]).any Definition.isSchema⟩ := by
  rw [Document.declared_append, List.any_append]
  generalize Document.declared definitions = d
  generalize definitions.any Definition.isSchema = known
  have hnone : ∀ operation, firstRoot? operation [] = none := fun _ => rfl
  cases x with
  | schema roots =>
    cases known <;> simp [Draft.add, Document.addRoots_eq, hnone, Definition.objectBlock?,
      Definition.inputBlock?, Definition.enumBlock?, Definition.scalar?, Definition.isSchema,
      Definition.schemaRoots, Definition.extensionRoots]
  | schemaExtension roots =>
    cases known <;> simp [Draft.add, Document.addRoots_eq, Definition.objectBlock?,
      Definition.inputBlock?, Definition.enumBlock?, Definition.scalar?, Definition.isSchema,
      Definition.schemaRoots, Definition.extensionRoots]
  | scalar name =>
    by_cases hname : name ∈ d.scalars <;> simp [Draft.add, hname, hnone, Definition.objectBlock?,
      Definition.inputBlock?, Definition.enumBlock?, Definition.scalar?, Definition.isSchema,
      Definition.schemaRoots, Definition.extensionRoots]
  | _ =>
    simp [Draft.add, hnone, Definition.objectBlock?, Definition.inputBlock?, Definition.enumBlock?,
      Definition.scalar?, Definition.isSchema, Definition.schemaRoots, Definition.extensionRoots]

theorem foldl_add_eq (definitions : List Definition) :
    definitions.foldl Draft.add {} =
      ⟨.declared definitions, definitions.any Definition.isSchema⟩ := by
  induction definitions using List.reverseRecOn with
  | nil => rfl
  | append_singleton definitions x ih =>
    rw [List.foldl_append, List.foldl_cons, List.foldl_nil, ih, Draft.add_declared]

/-- A merge succeeds where no definition is refused and a schema block is there, and its document is
the one that the definitions declare. -/
theorem result_merge_iff {definitions : List Definition} {d : Document} :
    (merge definitions).result = .ok d ↔
      (∀ x ∈ definitions, rejection? x = none) ∧ (∃ x ∈ definitions, x.isSchema) ∧
        d = .declared definitions := by
  rw [result_merge, foldl_add_eq, List.any_eq_true]

/-! ### Reading -/

theorem not_isBlank_of_isNamePart {c : Char} (h : isNamePart c) : Text.isBlank c = false :=
  Name.of_ascii (P := fun d => isNamePart d → Text.isBlank d = false) (Name.ascii_of_isNamePart h)
    (by decide) h

theorem ofChar?_of_isBlank {c : Char} (h : Text.isBlank c) : Symbol.ofChar? c = none := by
  unfold Symbol.ofChar?
  split
  all_goals first | rfl | exact absurd h (by decide)

/-- No token starts with white space. -/
theorem readToken_of_isBlank {c : Char} (h : Text.isBlank c) (offset : Nat) (rest : List Char) :
    ∃ fault, readToken offset (c :: rest) = .error fault := by
  have hne : ∀ d : Char, Text.isBlank d = false → c ≠ d := by
    rintro d hd rfl
    simp [h] at hd
  have hpart : isNamePart c = false := by
    by_contra hpart
    simp [not_isBlank_of_isNamePart (Bool.of_not_eq_false hpart)] at h
  have hstart : isNameStart c = false := by
    simp_all [isNameStart, isNamePart, Char.isAlphanum]
  have hdigit : c.isDigit = false := by
    simp_all [isNamePart, Char.isAlphanum]
  have hquote := hne '"' (by decide)
  have hpoint := hne '.' (by decide)
  have hminus := hne '-' (by decide)
  have hsymbol := ofChar?_of_isBlank h
  unfold readToken
  split
  all_goals simp_all
  split_ifs
  · exact ⟨_, rfl⟩
  · exact ⟨_, rfl⟩

/-- A text of white space has no lexeme but its end. -/
theorem scanFrom_of_isBlank {cs : List Char} (h : ∀ c ∈ cs, Text.isBlank c) (fuel offset : Nat) :
    (scanFrom fuel offset cs).lexemes = [] ∨
      ∃ behind, scanFrom fuel offset cs = ⟨[⟨.endOfText, behind⟩], none⟩ := by
  induction cs generalizing fuel offset with
  | nil => cases fuel <;> simp [scanFrom]
  | cons c rest ih =>
    obtain ⟨hc, hrest⟩ := List.forall_mem_cons.mp h
    cases fuel with
    | zero => exact .inl rfl
    | succ fuel =>
      have hcomment : (c == '#') = false := by
        rw [beq_eq_false_iff_ne]
        rintro rfl
        exact absurd hc (by decide)
      obtain ⟨fault, hfault⟩ := readToken_of_isBlank hc offset rest
      rw [scanFrom]
      split_ifs
      · exact ih hrest fuel (offset + 1)
      · simp_all
      · rw [hfault]
        exact .inl rfl

theorem not_all_isBlank_of_readDocument {s : String} {definitions : List Definition}
    (h : readDocument s = .ok definitions) : s.toList.all Text.isBlank = false := by
  rw [Bool.eq_false_iff]
  intro hblank
  obtain ⟨start, hstart, h⟩ := bind_eq_ok_iff.mp h
  obtain ⟨⟨result, last⟩, hrun, -⟩ := bind_eq_ok_iff.mp h
  rcases scanFrom_of_isBlank (List.all_eq_true.mp hblank) (s.toList.length + 1) 0 with
    hscan | ⟨behind, hscan⟩
  · change Scan.start (scanFrom _ _ _) = _ at hstart
    simp [Scan.start, hscan] at hstart
  · change Scan.start (scanFrom _ _ _) = _ at hstart
    rw [hscan] at hstart
    obtain rfl := Except.ok.inj hstart
    cases hrun

/-- Without a definition that is refused and with a schema block, the document is the one that the
definitions declare. -/
theorem read_eq_declared {definitions : List Definition}
    (hplace : ∀ x ∈ definitions, rejection? x = none)
    (hschema : ∃ x ∈ definitions, x.isSchema) :
    (merge definitions).result = .ok (.declared definitions) ∧
      ∀ s, readDocument s = .ok definitions → (read s).result = .ok (.declared definitions) := by
  have hmerge : (merge definitions).result = .ok (.declared definitions) :=
    result_merge_iff.mpr ⟨hplace, hschema, rfl⟩
  refine ⟨hmerge, fun s hs => ?_⟩
  unfold read
  rw [if_neg (by simp [not_all_isBlank_of_readDocument hs]), hs]
  exact hmerge

/-- Extensions before their type and after it, and a second schema block. -/
def scattered : List Definition := [
  .object ⟨"A", none, [⟨"y", .named "Int", [], none⟩, ⟨"y", .named "A", [], none⟩]⟩ [],
  .schemaExtension [⟨.mutation, "M"⟩],
  .enum ⟨"E", none, [⟨"X", none⟩]⟩,
  .object ⟨"A", some "first", [⟨"x", .named "Int", [], none⟩]⟩ [],
  .schema [⟨.subscription, "S"⟩, ⟨.query, "A"⟩],
  .object ⟨"B", none, [⟨"y", .named "Int", [], none⟩]⟩ [],
  .schema [⟨.query, "B"⟩, ⟨.mutation, "B"⟩],
  .object ⟨"A", none, [⟨"x", .named "B", [], none⟩, ⟨"z", .named "Int", [], none⟩]⟩ []]

theorem read_eq_declared_scattered :
    ∃ d, (merge scattered).result = .ok d ∧ d = .declared scattered ∧
      d.objects.map (fun b => (b.name, b.description, b.members.map fun f => (f.name, f.type))) =
        [("A", some "first", [("y", .named "Int"), ("x", .named "Int"), ("z", .named "Int")]),
          ("B", none, [("y", .named "Int")])] ∧
      d.queryType = some "A" ∧ d.mutationType = some "M" :=
  ⟨_, (read_eq_declared (by decide) (by decide)).1, rfl, by decide, by decide, by decide⟩

end Schema

end SchemaClient
