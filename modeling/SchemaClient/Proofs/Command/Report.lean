import SchemaClient.Proofs.Command.Run
import SchemaClient.Proofs.Module.Unmarked
import SchemaClient.Proofs.Module.WellFormed

/-! What the command reports. It tells the numbers of classes and of accessors by looking for their
marks in the module, so that they are right unless a free text holds a mark too. -/
namespace SchemaClient

/-! ### The module of a run -/

namespace Command

variable {p : Platform} {fs : FileSystem} {r : Request}

theorem stdout_deliver {code : String} {classes accessors : Nat}
    (h : (deliver fs r code).exitCode = 0) (hclasses : classCount code = classes)
    (haccessors : selectorCount code = accessors) :
    (deliver fs r code).stdout = introduction r ++ statistics r code ++ "Writing to " ++
      showPath r.output ++ "...\n" ++
      ("Done! Generated " ++ toString classes ++ " classes with " ++ toString accessors ++
        " selector methods.\n") := by
  subst hclasses haccessors
  unfold deliver at h ⊢
  dsimp only at h ⊢
  split at h
  · cases h
  · split at h
    · cases h
    · rfl

/-- A run that succeeds on a schema with a schema block has delivered the text of its module. -/
theorem deliver_of_run {arguments : List String} {sdl : String} {d : Schema.Document}
    (hr : request fs arguments = .ok r) (hsdl : decode r.schemaContent = some sdl)
    (hd : (Schema.read sdl).result = .ok d) (hlayout : layoutIn fs r.templateDir = .standard)
    (hheader : r.header.getD "" = "") (hexit : (run p fs ("generate" :: arguments)).exitCode = 0) :
    ∃ m, (Model.build d .standard (r.settings .standard).namespaceName (some r.clientName)).result =
        .ok m ∧
      run p fs ("generate" :: arguments) = deliver fs r (Module.ofModel .standard m).text := by
  have hrun := run_of_request p hr
  cases hresult : (generate p sdl (r.settings (layoutIn fs r.templateDir))).result with
  | error e =>
    rw [hrun, (runRequest_of_error hsdl hresult).1] at hexit
    cases hexit
  | ok code =>
    have hdeliver := hrun.trans (runRequest_of_code hsdl hresult)
    rw [hlayout, generate_of_document _ _ hd, result_generateFrom] at hresult
    obtain ⟨m, hm, hrender⟩ := bind_eq_ok_iff.mp hresult
    rw [settings_eq, if_pos hheader,
      Model.result_render_standard (Model.supported_of_build hm)] at hrender
    obtain ⟨-, -, rfl⟩ := Model.checkText_eq_ok_iff.mp hrender
    exact ⟨m, hm, hdeliver⟩

/-! ### The numbers -/

section Numbers

variable {sdl namespaceName : String} {clientName : Option String} {d : Schema.Document} {m : Model}

/-- Objects have a method for each accessor, and inputs have none. -/
theorem methods_ofModel (hm : (Model.build d .standard namespaceName clientName).result = .ok m) :
    ((Module.ofModel .standard m).classes.map fun c => c.methods.length).sum =
      (m.types.map fun c => (c.fields.filter Field.isAccessor).length).sum := by
  have hobjects : ∀ c ∈ m.types, (Module.declare .standard m c).methods.length =
      (c.fields.filter Field.isAccessor).length := by
    rw [Model.types_of_build hm]
    exact List.forall_mem_map.mpr fun b _ => List.length_map _
  have hinputs : ∀ c ∈ m.inputs, (Module.declare .standard m c).methods.length = 0 := by
    intro c hc
    obtain ⟨b, -, hbuilt⟩ := exists_of_forall₂_right (Model.inputs_of_build hm) hc
    obtain ⟨fields, -, rfl⟩ := Model.result_buildInput.mp hbuilt
    rfl
  rw [Module.classes_ofModel, Model.classes, List.map_map, Function.comp_def, List.map_append,
    List.sum_append,
    List.map_congr_left (g := fun c => (c.fields.filter Field.isAccessor).length) hobjects,
    List.sum_eq_zero (List.forall_mem_map.mpr hinputs), Nat.add_zero]

theorem classCount_ofModel (hd : (Schema.read sdl).result = .ok d)
    (hm : (Model.build d .standard namespaceName clientName).result = .ok m) :
    classCount (Module.ofModel .standard m).text =
      1 + m.types.length + m.inputs.length + m.enums.length +
        ((Module.ofModel .standard m).freeLines.map Mark.classLine.count).sum := by
  have hclasses : (Module.ofModel .standard m).classes.length = m.types.length + m.inputs.length := by
    rw [Module.classes_ofModel, List.length_map, Model.classes, List.length_append]
  refine (Module.count_classLine_text (Module.isUnmarked_ofModel hd hm)).trans ?_
  rw [hclasses, ← Nat.add_assoc 1]
  rfl

theorem selectorCount_ofModel (hd : (Schema.read sdl).result = .ok d)
    (hm : (Model.build d .standard namespaceName clientName).result = .ok m) :
    selectorCount (Module.ofModel .standard m).text =
      (m.types.map fun c => (c.fields.filter Field.isAccessor).length).sum +
        ((Module.ofModel .standard m).freeTexts.map Mark.decorator.count).sum :=
  (Module.count_decorator_text (Module.isUnmarked_ofModel hd hm)).trans
    (by rw [methods_ofModel hm])

end Numbers

/-- The sum of counts vanishes just if the mark stands in no text. -/
theorem sum_count_eq_zero_iff (mark : Mark) {texts : List String} :
    (texts.map mark.count).sum = 0 ↔ ∀ s ∈ texts, ¬mark.pattern.toList <:+: s.toList := by
  rw [List.sum_eq_zero_iff, List.forall_mem_map]
  exact forall₂_congr fun s _ => mark.count_eq_zero_iff

end Command

/-- A successful run with the usual layout and no header tells the numbers of classes and accessors.
They are one for the client and one for each object, input and enum, and one for each accessor of an
object; but lines that start a class count too where they stand in the client name or in a
docstring, and so do decorators, also in descriptions of fields and in defaults. So the numbers are
right just if no such text holds the mark. -/
theorem Command.run_generate_report {p : Platform} {fs : FileSystem} {arguments : List String}
    {r : Request} {sdl : String} {d : Schema.Document} (hr : request fs arguments = .ok r)
    (hsdl : decode r.schemaContent = some sdl) (hd : (Schema.read sdl).result = .ok d)
    (hlayout : layoutIn fs r.templateDir = .standard) (hheader : r.header.getD "" = "")
    (hexit : (run p fs ("generate" :: arguments)).exitCode = 0) :
    ∃ m, (Model.build d .standard (r.settings .standard).namespaceName (some r.clientName)).result =
        .ok m ∧
      let generated := Module.ofModel .standard m
      let classes := 1 + m.types.length + m.inputs.length + m.enums.length
      let accessors := (m.types.map fun c => (c.fields.filter Field.isAccessor).length).sum
      ∃ reportedClasses reportedAccessors,
        (run p fs ("generate" :: arguments)).stdout = introduction r ++ statistics r generated.text ++
          "Writing to " ++ showPath r.output ++ "...\n" ++
          ("Done! Generated " ++ toString reportedClasses ++ " classes with " ++
            toString reportedAccessors ++ " selector methods.\n") ∧
        reportedClasses = classes +
          (generated.freeLines.map (Text.occurrences "\nclass ")).sum ∧
        reportedAccessors = accessors +
          (generated.freeTexts.map (Text.occurrences "@runtime.graphql_selector")).sum ∧
        (reportedClasses = classes ↔
          ∀ s ∈ generated.freeLines, ¬"\nclass ".toList <:+: s.toList) ∧
        (reportedAccessors = accessors ↔
          ∀ s ∈ generated.freeTexts, ¬"@runtime.graphql_selector".toList <:+: s.toList) := by
  obtain ⟨m, hm, hrun⟩ := deliver_of_run hr hsdl hd hlayout hheader hexit
  have hlines := classCount_ofModel hd hm
  have hmarks := selectorCount_ofModel hd hm
  refine ⟨m, hm, _, _, ?_, hlines, hmarks, ?_, ?_⟩
  · rw [hrun] at hexit ⊢
    exact stdout_deliver hexit rfl rfl
  · rw [hlines, Nat.add_eq_left]
    exact sum_count_eq_zero_iff .classLine
  · rw [hmarks, Nat.add_eq_left]
    exact sum_count_eq_zero_iff .decorator

/-! ### Descriptions that hold marks -/

namespace Command

/-- A type whose description goes on with a line like that of a class, and an accessor that is
described by its decorator. -/
def markedSchema : String :=
  "schema\x7bquery:Q\x7d\"A\\nclass B\"type Q\x7b\"@runtime.graphql_selector\"a(b:Int):Int\x7d"

def markedFiles : FileSystem :=
  .ofFiles ["home"] [(["home", "s"], markedSchema.toUTF8)]

def markedModel : Model :=
  { namespaceName := "client"
    clientName := "GraphQLClient"
    queryType := some "Q"
    types := [{
      name := "Q"
      description := some "A\nclass B"
      fields := [{
        name := "a"
        wireName := "a"
        type := .leaf .scalar "Int" true
        arguments := [{
          name := "b"
          wireName := "b"
          hint := "int | None"
          type := some (.leaf .scalar "Int" true) }]
        description := some "@runtime.graphql_selector" }] }] }

theorem run_markedFiles : ∃ r d,
    request markedFiles ["-s", "s", "-o", "client.py"] = .ok r ∧
    decode r.schemaContent = some markedSchema ∧ (Schema.read markedSchema).result = .ok d ∧
    (Model.build d .standard (r.settings .standard).namespaceName (some r.clientName)).result =
      .ok markedModel ∧
    layoutIn markedFiles r.templateDir = .standard ∧ r.header.getD "" = "" ∧
    (run .verbatim markedFiles ["generate", "-s", "s", "-o", "client.py"]).exitCode = 0 := by
  obtain ⟨r, hr, hview⟩ := exists_request_of_view markedFiles ["-s", "s", "-o", "client.py"]
    (fun r => [decode r.schemaContent, some r.output, r.namespaceName, some r.clientName,
      r.templateDir, r.header])
    [some markedSchema, some "client.py", none, some "GraphQLClient", none, none]
    (by decide +kernel)
  simp only [List.cons.injEq, Option.some.injEq, and_true] at hview
  obtain ⟨hsdl, houtput, hnamespace, hclient, htemplate, hheader⟩ := hview
  have hlayout : layoutIn markedFiles r.templateDir = .standard := by rw [htemplate]; rfl
  have hempty : r.header.getD "" = "" := by rw [hheader]; rfl
  have hname : (r.settings .standard).namespaceName = "client" := by
    rw [settings_eq, hnamespace, houtput]
    exact (rfl : fileStem (fileName "client.py") = "client")
  obtain ⟨d, m, hd, hm, hmodel⟩ := Traced.exists_of_view (x := Schema.read markedSchema)
    (f := fun d => Model.build d .standard "client" (some "GraphQLClient"))
    (g := fun d m => (decide d.IsWritable, m)) (v := (true, markedModel)) (by decide +kernel)
  obtain ⟨hwritable, rfl⟩ := Prod.mk.inj hmodel
  have hresult : (generate .verbatim markedSchema
      (r.settings (layoutIn markedFiles r.templateDir))).result =
        .ok (Module.ofModel .standard markedModel).text := by
    rw [hlayout, generate_of_document _ _ hd, result_generateFrom, hname, settings_eq,
      if_pos hempty, hclient]
    refine bind_eq_ok_iff.mpr
      ⟨_, hm, (Model.result_render_standard (Model.supported_of_build hm)).trans ?_⟩
    exact Model.checkText_of_isWritable hd hm (by decide) (by decide)
      (of_decide_eq_true hwritable) _ _
  refine ⟨r, d, hr, hsdl, hd, ?_, hlayout, hempty, ?_⟩
  · rw [hname, hclient]
    exact hm
  · rw [run_of_request _ hr, runRequest_of_code hsdl hresult]
    exact (deliver_of_isWritable (entry_startOf (by decide) r.output)
      (houtput ▸ by decide +kernel) _).1

/-- Each mark stands once in the texts that the schema is free to give. -/
theorem freeCounts_markedModel :
    ((Module.ofModel .standard markedModel).freeLines.map Mark.classLine.count).sum = 1 ∧
    ((Module.ofModel .standard markedModel).freeTexts.map Mark.decorator.count).sum = 1 := by
  decide +kernel

theorem run_generate_report_markedFiles : ∃ r d,
    request markedFiles ["-s", "s", "-o", "client.py"] = .ok r ∧
    decode r.schemaContent = some markedSchema ∧ (Schema.read markedSchema).result = .ok d ∧
    layoutIn markedFiles r.templateDir = .standard ∧ r.header.getD "" = "" ∧
    (run .verbatim markedFiles ["generate", "-s", "s", "-o", "client.py"]).exitCode = 0 ∧
    ∃ report, (run .verbatim markedFiles ["generate", "-s", "s", "-o", "client.py"]).stdout =
      report ++ ("Done! Generated " ++ toString 3 ++ " classes with " ++ toString 2 ++
        " selector methods.\n") := by
  obtain ⟨r, d, hr, hsdl, hd, hm, hlayout, hheader, hexit⟩ := run_markedFiles
  obtain ⟨m, hm', classes, accessors, hstdout, hclasses, haccessors, -, -⟩ :=
    run_generate_report hr hsdl hd hlayout hheader hexit
  obtain rfl := Except.ok.inj (hm'.symm.trans hm)
  have hthree : classes = 3 := hclasses.trans (congrArg (2 + ·) freeCounts_markedModel.1)
  have htwo : accessors = 2 := haccessors.trans (congrArg (1 + ·) freeCounts_markedModel.2)
  rw [hthree, htwo] at hstdout
  exact ⟨r, d, hr, hsdl, hd, hlayout, hheader, hexit, _, hstdout⟩

/-- Two classes and one accessor are reported as three and two. -/
theorem conclusion_ne_markedFiles : ∃ r d m report,
    request markedFiles ["-s", "s", "-o", "client.py"] = .ok r ∧
    decode r.schemaContent = some markedSchema ∧ (Schema.read markedSchema).result = .ok d ∧
    (Model.build d .standard (r.settings .standard).namespaceName (some r.clientName)).result =
      .ok m ∧
    1 + m.types.length + m.inputs.length + m.enums.length = 2 ∧
    (m.types.map fun c => (c.fields.filter Field.isAccessor).length).sum = 1 ∧
    (run .verbatim markedFiles ["generate", "-s", "s", "-o", "client.py"]).exitCode = 0 ∧
    (run .verbatim markedFiles ["generate", "-s", "s", "-o", "client.py"]).stdout =
      report ++ ("Done! Generated " ++ toString 3 ++ " classes with " ++ toString 2 ++
        " selector methods.\n") := by
  obtain ⟨r, d, hr, hsdl, hd, hm, hlayout, hheader, hexit⟩ := run_markedFiles
  obtain ⟨m, hm', hrun⟩ := deliver_of_run hr hsdl hd hlayout hheader hexit
  obtain rfl := Except.ok.inj (hm'.symm.trans hm)
  have hthree : classCount (Module.ofModel .standard markedModel).text = 3 :=
    (classCount_ofModel hd hm).trans (congrArg (2 + ·) freeCounts_markedModel.1)
  have htwo : selectorCount (Module.ofModel .standard markedModel).text = 2 :=
    (selectorCount_ofModel hd hm).trans (congrArg (1 + ·) freeCounts_markedModel.2)
  have hstdout := stdout_deliver ((congrArg Outcome.exitCode hrun).symm.trans hexit) hthree htwo
  exact ⟨r, d, _, _, hr, hsdl, hd, hm, rfl, rfl, hexit,
    (congrArg Outcome.stdout hrun).trans hstdout⟩

end Command

end SchemaClient
