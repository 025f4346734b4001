import SchemaClient.Command.Run
import SchemaClient.Proofs.Command.FileSystem
import SchemaClient.Proofs.Generate

/-! What a run of the command does to files: nothing if no client can be generated, and otherwise
the client is written to its place and nowhere else. -/
namespace SchemaClient.Command

/-! ### Requests -/

theorem mapError_eq_ok_iff {ε ε' α : Type} {f : ε → ε'} {x : Except ε α} {a : α} :
    x.mapError f = .ok a ↔ x = .ok a := by
  cases x <;> simp [Except.mapError]

theorem required_eq_ok_iff {p : Parsed} {o : OptionSpec} {value : String} :
    required p o = .ok value ↔ p.value? o = some value := by
  unfold required
  cases p.value? o <;> simp

theorem fileExpected_eq_ok_iff {fs : FileSystem} {o : OptionSpec} {path : String}
    {content : ByteArray} :
    fileExpected fs o path = .ok content ↔ fs.lookup path = .file content := by
  unfold fileExpected
  cases fs.lookup path <;> simp

/-- The request says what the options do. The last value of an option counts. -/
structure Request.Reads (r : Request) (fs : FileSystem) (p : Parsed) : Prop where
  schema : p.value? schemaOption = some r.schema
  schemaContent : fs.lookup r.schema = .file r.schemaContent
  output : p.value? outputOption = some r.output
  namespaceName : p.value? namespaceOption = r.namespaceName
  clientName : (p.value? clientNameOption).getD Model.defaultClientName = r.clientName
  templateDir : p.value? templateDirOption = r.templateDir
  header : p.value? headerOption = r.header

theorem reads_of_request {fs : FileSystem} {arguments : List String} {r : Request}
    (h : request fs arguments = .ok r) :
    ∃ p, parse generateScope arguments = .ok p ∧ r.Reads fs p := by
  unfold request at h
  obtain ⟨p, hp, h⟩ := bind_eq_ok_iff.mp h
  refine ⟨p, mapError_eq_ok_iff.mp hp, ?_⟩
  by_cases hhelp : p.has helpOption = true
  · rw [if_pos hhelp] at h
    cases h
  rw [if_neg hhelp] at h
  obtain ⟨_, -, h⟩ := bind_eq_ok_iff.mp h
  obtain ⟨schema, hschema, h⟩ := bind_eq_ok_iff.mp h
  obtain ⟨output, houtput, h⟩ := bind_eq_ok_iff.mp h
  obtain ⟨content, hcontent, h⟩ := bind_eq_ok_iff.mp h
  by_cases hoperands : p.operands.isEmpty = true
  · rw [if_pos hoperands] at h
    cases h
    exact ⟨required_eq_ok_iff.mp hschema,
      fileExpected_eq_ok_iff.mp (mapError_eq_ok_iff.mp hcontent),
      required_eq_ok_iff.mp houtput, rfl, rfl, rfl, rfl⟩
  · rw [if_neg hoperands] at h
    cases h

/-- Options have been understood if something can be seen of the request. -/
theorem exists_request_of_view (fs : FileSystem) (arguments : List String) {α : Type}
    (view : Request → α) (v : α) (h : (request fs arguments).toOption.map view = some v) :
    ∃ r, request fs arguments = .ok r ∧ view r = v := by
  obtain ⟨r, hr, hv⟩ := Option.map_eq_some_iff.mp h
  exact ⟨r, toOption_eq_some_iff.mp hr, hv⟩

theorem settings_eq (r : Request) (layout : Layout) : r.settings layout =
    { namespaceName := if r.namespaceName.getD "" = "" then fileStem (fileName r.output)
        else r.namespaceName.getD ""
      clientName := some r.clientName
      layout
      hooks := { post := if r.header.getD "" = "" then [] else [.header (r.header.getD "")] }
      filename := fileName r.output } := by
  unfold Request.settings
  dsimp only
  split <;> split <;> simp_all

/-! ### Delivery -/

section Deliver

variable {fs : FileSystem} {r : Request}

theorem deliver_of_isWritable (hstart : fs.entry (fs.startOf r.output) = .directory)
    (h : fs.IsWritable r.output) (code : String) :
    (deliver fs r code).exitCode = 0 ∧ (deliver fs r code).abort = none ∧
      fs.Written r.output code.toUTF8 (deliver fs r code).files := by
  obtain ⟨hmade, after, hafter, hwritten⟩ := FileSystem.written_of_isWritable hstart h code
  unfold FileSystem.ensureParents at hmade hafter
  unfold deliver
  dsimp only
  rw [hmade]
  dsimp only
  rw [hafter]
  exact ⟨rfl, rfl, hwritten⟩

theorem deliver_of_not_isWritable (hstart : fs.entry (fs.startOf r.output) = .directory)
    (h : ¬fs.IsWritable r.output) (code : String) :
    (deliver fs r code).exitCode = 1 ∧
      fs.Grows (FileSystem.through (fs.startOf r.output) (pathParts r.output))
        (deliver fs r code).files := by
  have hgrows := fs.grows_ensureParents r.output
  unfold deliver
  dsimp only
  split
  · exact ⟨rfl, hgrows⟩
  · rename_i hmade
    split
    · exact ⟨rfl, hgrows⟩
    · rename_i after hafter
      exact absurd (FileSystem.isWritable_of_writeText hstart hmade hafter) h

end Deliver

/-! ### Runs -/

section Run

variable {p : Platform} {fs : FileSystem} {arguments : List String} {r : Request}
  {sdl code : String} {e : Error}

theorem run_of_request (p : Platform) (h : request fs arguments = .ok r) :
    run p fs ("generate" :: arguments) = runRequest p fs r := by
  have hparse : parse mainScope ("generate" :: arguments) =
      .ok { operands := "generate" :: arguments } := rfl
  have horder : ({ operands := "generate" :: arguments } : Parsed).order = [] := rfl
  unfold run
  rw [hparse]
  simp only [horder, List.head?_nil, h]

theorem runRequest_of_code (hdecode : decode r.schemaContent = some sdl)
    (h : (generate p sdl (r.settings (layoutIn fs r.templateDir))).result = .ok code) :
    runRequest p fs r = deliver fs r code := by
  unfold runRequest
  rw [hdecode]
  dsimp only
  rw [h]

/-- Whatever the error is, it is the end of the run before any file is touched. -/
theorem runRequest_of_error (hdecode : decode r.schemaContent = some sdl)
    (h : (generate p sdl (r.settings (layoutIn fs r.templateDir))).result = .error e) :
    (runRequest p fs r).exitCode = 1 ∧ (runRequest p fs r).files = fs ∧
      ∀ message, e.message? = some message →
        (runRequest p fs r).stderr = "Error: " ++ message ++ "\n" ∧
          (runRequest p fs r).abort = none := by
  unfold runRequest
  rw [hdecode]
  dsimp only
  rw [h]
  cases hmessage : e.message? <;> simp [hmessage]

theorem runRequest_of_not_text (p : Platform) (h : decode r.schemaContent = none) :
    (runRequest p fs r).exitCode = 1 ∧ (runRequest p fs r).files = fs := by
  unfold runRequest
  rw [h]
  exact ⟨rfl, rfl⟩

theorem entry_startOf (h : fs.isDirectory fs.workingDirectory = true) (path : String) :
    fs.entry (fs.startOf path) = .directory := by
  rw [FileSystem.entry_eq_directory_iff, FileSystem.startOf]
  split_ifs
  · rfl
  · exact h

end Run

/-- A schema file that does not hold text, and every error of the generator, end a run with the file
system as it was. Otherwise the output holds the module that is generated from the schema, under the
namespace that is given or else the stem of the output, for the client name, with the layout that the
template directory has, with the header if one is given, and for the name of the output; the
directories on its way are there, and nothing else has changed. Only where the output cannot be
written the run fails all the same: no file has changed then, though directories on the way may have
been made. -/
theorem run_generate_effect {p : Platform} {fs : FileSystem} {arguments : List String} {r : Request}
    (hfs : fs.isDirectory fs.workingDirectory = true) (hr : request fs arguments = .ok r) :
    let outcome := run p fs ("generate" :: arguments)
    (∃ parsed, parse generateScope arguments = .ok parsed ∧ r.Reads fs parsed) ∧
    (decode r.schemaContent = none → outcome.exitCode = 1 ∧ outcome.files = fs) ∧
    ∀ sdl, decode r.schemaContent = some sdl → ∀ settings : Settings, settings =
        { namespaceName := if r.namespaceName.getD "" = "" then fileStem (fileName r.output)
            else r.namespaceName.getD ""
          clientName := some r.clientName
          layout := layoutIn fs r.templateDir
          hooks := { post := if r.header.getD "" = "" then [] else [.header (r.header.getD "")] }
          filename := fileName r.output } →
      (∀ e, (generate p sdl settings).result = .error e →
        outcome.exitCode = 1 ∧ outcome.files = fs ∧ ∀ message, e.message? = some message →
          outcome.stderr = "Error: " ++ message ++ "\n" ∧ outcome.abort = none) ∧
      ∀ code, (generate p sdl settings).result = .ok code →
        (fs.IsWritable r.output → outcome.exitCode = 0 ∧ outcome.abort = none ∧
          fs.Written r.output code.toUTF8 outcome.files) ∧
        (¬fs.IsWritable r.output → outcome.exitCode = 1 ∧
          fs.Grows (FileSystem.through (fs.startOf r.output) (pathParts r.output))
            outcome.files) := by
  intro outcome
  have houtcome : outcome = runRequest p fs r := run_of_request p hr
  have hstart := entry_startOf hfs r.output
  refine ⟨reads_of_request hr, fun hnone => houtcome ▸ runRequest_of_not_text p hnone, ?_⟩
  rintro sdl hsdl settings rfl
  rw [← settings_eq]
  refine ⟨fun e he => houtcome ▸ runRequest_of_error hsdl he, fun code hcode => ?_⟩
  rw [houtcome, runRequest_of_code hsdl hcode]
  exact ⟨fun h => deliver_of_isWritable hstart h code,
    fun h => deliver_of_not_isWritable hstart h code⟩

def plainSchema : String := "schema\x7bquery:Q\x7dtype Q\x7ba:Int\x7d"

/-- Three schemas in the working directory, of which one is empty and one has an interface, a file and
a directory with a template. -/
def threeSchemas : FileSystem :=
  .ofFiles ["home"] [(["home", "empty"], "".toUTF8),
    (["home", "interface"], "interface A\x7ba:Int\x7d".toUTF8),
    (["home", "plain"], plainSchema.toUTF8),
    (["home", "old"], "x".toUTF8), (["home", "t", "client.py.j2"], "x = 1\n".toUTF8)]

theorem generate_plainSchema : (generate .verbatim plainSchema
    { namespaceName := "old", clientName := some "GraphQLClient", layout := .template "x = 1\n",
      filename := "old" }).result = .ok "x = 1\n" := by
  obtain ⟨d, m, hd, hm, hsupported⟩ := Traced.exists_of_view (x := Schema.read plainSchema)
    (f := fun d => Model.build d .standard "old" (some "GraphQLClient"))
    (g := fun _ m => m.supported.toOption) (v := some ()) (by decide +kernel)
  rw [generate_of_document _ _ hd, result_generateFrom]
  refine bind_eq_ok_iff.mpr ⟨m, hm, (Model.result_render _ _ _ _ _ _).trans ?_⟩
  refine bind_eq_ok_iff.mpr ⟨m, rfl, bind_eq_ok_iff.mpr ⟨_, rfl, ?_⟩⟩
  refine bind_eq_ok_iff.mpr ⟨(), toOption_eq_some_iff.mp hsupported, ?_⟩
  refine bind_eq_ok_iff.mpr ⟨_, rfl, bind_eq_ok_iff.mpr ⟨_, rfl, ?_⟩⟩
  exact Model.checkText_eq_ok_iff.mpr ⟨by decide +kernel, by decide +kernel, rfl⟩

theorem run_generate_effect_threeSchemas :
    ((run .verbatim threeSchemas
        ["generate", "-sempty", "--output=new/../out/client.py", "-n", ""]).exitCode = 0 ∧
      threeSchemas.Written "new/../out/client.py" placeholder.toUTF8 (run .verbatim threeSchemas
        ["generate", "-sempty", "--output=new/../out/client.py", "-n", ""]).files) ∧
    ((run .verbatim threeSchemas
        ["generate", "-s", "interface", "-o", "old", "--header", "x"]).exitCode = 1 ∧
      (run .verbatim threeSchemas
        ["generate", "-s", "interface", "-o", "old", "--header", "x"]).files = threeSchemas) ∧
    ((run .verbatim threeSchemas
        ["generate", "-s", "plain", "-o", "old", "--template-dir", "t"]).exitCode = 0 ∧
      threeSchemas.Written "old" "x = 1\n".toUTF8 (run .verbatim threeSchemas
        ["generate", "-s", "plain", "-o", "old", "--template-dir", "t"]).files) := by
  have hfs : threeSchemas.isDirectory threeSchemas.workingDirectory = true := by decide +kernel
  refine ⟨?_, ?_, ?_⟩
  · obtain ⟨r, hr, hview⟩ := exists_request_of_view threeSchemas
      ["-sempty", "--output=new/../out/client.py", "-n", ""]
      (fun r => (decode r.schemaContent, r.output)) (some "", "new/../out/client.py")
      (by decide +kernel)
    obtain ⟨hsdl, houtput⟩ := Prod.mk.inj hview
    obtain ⟨-, -, heffect⟩ := run_generate_effect (p := .verbatim) hfs hr
    obtain ⟨hcode, -, hwritten⟩ := ((heffect "" hsdl _ rfl).2 placeholder rfl).1
      (houtput ▸ by decide +kernel)
    exact ⟨hcode, houtput ▸ hwritten⟩
  · obtain ⟨r, hr, hsdl⟩ := exists_request_of_view threeSchemas
      ["-s", "interface", "-o", "old", "--header", "x"] (fun r => decode r.schemaContent)
      (some "interface A\x7ba:Int\x7d") (by decide +kernel)
    have hread : (Schema.read "interface A\x7ba:Int\x7d").result =
        .error (.unsupportedConstruct "interface" (some "A")) :=
      errorOf?_eq_some_iff.mp (by decide +kernel)
    obtain ⟨-, -, heffect⟩ := run_generate_effect (p := .verbatim) hfs hr
    obtain ⟨hcode, hfiles, -⟩ := (heffect _ hsdl _ rfl).1 _ (congrArg Traced.result
      (generate_of_error _ _ hread fun _ => nofun))
    exact ⟨hcode, hfiles⟩
  · obtain ⟨r, hr, hview⟩ := exists_request_of_view threeSchemas
      ["-s", "plain", "-o", "old", "--template-dir", "t"]
      (fun r => [decode r.schemaContent, some r.output, r.namespaceName, some r.clientName,
        r.templateDir, r.header])
      [some plainSchema, some "old", none, some "GraphQLClient", some "t", none]
      (by decide +kernel)
    simp only [List.cons.injEq, Option.some.injEq, and_true] at hview
    obtain ⟨hsdl, houtput, hnamespace, hclient, htemplate, hheader⟩ := hview
    obtain ⟨-, -, heffect⟩ := run_generate_effect (p := .verbatim) hfs hr
    have hlayout : layoutIn threeSchemas (some "t") = .template "x = 1\n" := by decide +kernel
    have hname : fileName "old" = "old" := rfl
    have hstem : fileStem "old" = "old" := rfl
    have hsettings : ({
        namespaceName := "old"
        clientName := some "GraphQLClient"
        layout := .template "x = 1\n"
        filename := "old" } : Settings) =
        { namespaceName := if r.namespaceName.getD "" = "" then fileStem (fileName r.output)
            else r.namespaceName.getD ""
          clientName := some r.clientName
          layout := layoutIn threeSchemas r.templateDir
          hooks := { post := if r.header.getD "" = "" then [] else [.header (r.header.getD "")] }
          filename := fileName r.output } := by
      rw [houtput, hnamespace, hclient, htemplate, hheader, hlayout, hname, hstem,
        Option.getD_none, if_pos rfl, if_pos rfl]
    have hwritable : threeSchemas.IsWritable r.output := by
      rw [houtput]
      decide +kernel
    obtain ⟨hcode, -, hwritten⟩ :=
      ((heffect plainSchema hsdl _ hsettings).2 _ generate_plainSchema).1 hwritable
    rw [houtput] at hwritten
    exact ⟨hcode, hwritten⟩

/-- A file stands where the directory of an output is to be, and is not text. -/
def fileForDirectory : FileSystem :=
  .ofFiles ["home"] [(["home", "s"], "".toUTF8), (["home", "a"], ⟨#[0xff]⟩)]

/-- A run may fail although the generator reports no error: where the output cannot be written, and
where the schema file is not text. -/
theorem exitCode_ne_zero_fileForDirectory :
    (∃ r, request fileForDirectory ["-s", "s", "-o", "a/b"] = .ok r ∧
      (∃ sdl, decode r.schemaContent = some sdl ∧
        (generate .verbatim sdl (r.settings (layoutIn fileForDirectory r.templateDir))).result =
          .ok placeholder) ∧
      (run .verbatim fileForDirectory ["generate", "-s", "s", "-o", "a/b"]).exitCode ≠ 0) ∧
    ∃ r, request fileForDirectory ["-s", "a", "-o", "b"] = .ok r ∧
      decode r.schemaContent = none ∧
      (run .verbatim fileForDirectory ["generate", "-s", "a", "-o", "b"]).exitCode ≠ 0 := by
  constructor
  · obtain ⟨r, hr, hsdl⟩ := exists_request_of_view fileForDirectory
      ["-s", "s", "-o", "a/b"] (fun r => decode r.schemaContent) (some "") (by decide +kernel)
    exact ⟨r, hr, ⟨"", hsdl, rfl⟩, by decide +kernel⟩
  · obtain ⟨r, hr, hsdl⟩ := exists_request_of_view fileForDirectory
      ["-s", "a", "-o", "b"] (fun r => decode r.schemaContent) none (by decide +kernel)
    exact ⟨r, hr, hsdl, by decide +kernel⟩

end SchemaClient.Command
