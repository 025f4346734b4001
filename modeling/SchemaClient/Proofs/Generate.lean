import SchemaClient.Proofs.Model.Build
import SchemaClient.Proofs.Render
import SchemaClient.Proofs.Schema.Outcome
import SchemaClient.Proofs.Sdl.Escape

/-! From a schema text to a module. The events of a run tell how far it got: a text without a schema
is answered by the placeholder before anything is built, and all other errors remain as they are. -/
namespace SchemaClient

open Sdl

/-! ### Events by stage -/

/-- The part of a run that an event comes from. -/
inductive Stage where
  | reading | building | rendering | recovery
deriving DecidableEq, Repr

def Event.stage : Event → Stage
  | schemaFault _ | skippedExecutable _ | skippedDefinition _ | extraSchema
  | ignoredSubscription _ => .reading
  | undefinedRoot _ | renamedMember .. | builtModel .. => .building
  | filteredTypes _ | droppedField .. | missingTemplateDir _ => .rendering
  | placeholder _ => .recovery

/-- All events of the computation have the property `p`. -/
def Traced.Emits {α : Type} (p : Event → Prop) (x : Traced α) : Prop :=
  ∀ e ∈ x.events, p e

namespace Traced.Emits

variable {α β : Type} {p q : Event → Prop} {x : Traced α}

theorem mono (h : x.Emits p) (hpq : ∀ e, p e → q e) : x.Emits q :=
  fun e he => hpq e (h e he)

theorem ok (a : α) : (pure a : Traced α).Emits p :=
  fun _ he => nomatch he

theorem fail (e : Error) : (Traced.fail e : Traced α).Emits p :=
  fun _ he => nomatch he

theorem bind {f : α → Traced β} (hx : x.Emits p) (hf : ∀ a, (f a).Emits p) :
    (x >>= f).Emits p := by
  intro e he
  rw [events_bind] at he
  rcases List.mem_append.mp he with he | he
  · exact hx e he
  · cases hresult : x.result with
    | ok a =>
      rw [hresult] at he
      exact hf a e he
    | error _ =>
      rw [hresult] at he
      cases he

theorem foldlM {f : β → α → Traced β} (hf : ∀ b a, (f b a).Emits p) (as : List α) (b : β) :
    (as.foldlM f b).Emits p := by
  induction as generalizing b with
  | nil => exact ok b
  | cons a as ih =>
    rw [List.foldlM_cons]
    exact (hf b a).bind ih

end Traced.Emits

open Traced

/-! ### Reading -/

namespace Schema

theorem emits_subscriptionEvents (roots : List RootType) :
    ∀ e ∈ subscriptionEvents roots, e.stage = .reading := by
  intro e he
  obtain ⟨root, -, rfl⟩ := List.mem_map.mp he
  rfl

theorem emits_step (d : Draft) (x : Definition) :
    (d.step x).Emits fun e => e.stage = .reading := by
  unfold Draft.step
  cases rejection? x with
  | some e => exact Emits.fail e
  | none =>
    refine Emits.bind ?_ fun _ => Emits.ok _
    show ∀ e ∈ d.events x, e.stage = .reading
    cases x with
    | schema roots =>
      simp only [Draft.events]
      split_ifs
      · simp [Event.stage]
      · exact emits_subscriptionEvents roots
    | schemaExtension roots => exact emits_subscriptionEvents roots
    | _ => simp [Draft.events, Event.stage]

theorem emits_read (s : String) : (read s).Emits fun e => e.stage = .reading := by
  unfold read
  split_ifs
  · exact Emits.fail _
  · split
    · rename_i fault _
      refine Emits.bind ?_ fun _ => Emits.fail _
      show ∀ e ∈ faultEvents fault, e.stage = .reading
      cases fault <;> simp [faultEvents, Event.stage]
    · refine Emits.bind (Emits.foldlM emits_step _ _) fun d => ?_
      split_ifs
      · exact Emits.ok _
      · exact Emits.fail _

end Schema

/-! ### Building -/

/-- Where a computation has succeeded, what the next one tells is told. -/
theorem Traced.mem_events_bind {α β : Type} {x : Traced α} {f : α → Traced β} {a : α} {e : Event}
    (h : x.result = .ok a) (he : e ∈ (f a).events) : e ∈ (x >>= f).events := by
  rw [events_bind, h]
  exact List.mem_append_right _ he

/-- A model that is built is told of. -/
theorem Model.exists_builtModel_mem_events {d : Schema.Document} {scalars : ScalarRegistry}
    {namespaceName : String} {clientName : Option String} {m : Model}
    (h : (build d scalars namespaceName clientName).result = .ok m) :
    ∃ types inputs enums,
      .builtModel types inputs enums ∈ (build d scalars namespaceName clientName).events := by
  unfold build at h ⊢
  obtain ⟨_, hnames, h⟩ := result_bind_eq_ok.mp h
  obtain ⟨_, hroots, h⟩ := result_bind_eq_ok.mp h
  obtain ⟨_, hrenames, h⟩ := result_bind_eq_ok.mp h
  obtain ⟨inputs, hinputs, -⟩ := result_bind_eq_ok.mp h
  exact ⟨_, _, _, mem_events_bind hnames <| mem_events_bind hroots <| mem_events_bind hrenames <|
    mem_events_bind hinputs List.mem_cons_self⟩

/-! ### The whole run -/

section Run

variable {sdl : String} (p : Platform) (s : Settings)

theorem generate_of_schemaNotFound {message : String}
    (h : (Schema.read sdl).result = .error (.schemaNotFound message)) :
    generate p sdl s = ⟨(Schema.read sdl).events ++ [.placeholder message], .ok placeholder⟩ := by
  unfold generate
  simp only [h]

theorem generate_of_error {e : Error} (h : (Schema.read sdl).result = .error e)
    (he : ∀ message, e ≠ .schemaNotFound message) :
    generate p sdl s = ⟨(Schema.read sdl).events, .error e⟩ := by
  unfold generate
  dsimp only
  split
  · rename_i message hmessage
    exact absurd (Except.error.inj (h.symm.trans hmessage)) (he message)
  · show Traced.andThen _ _ = _
    simp only [Traced.andThen, h]

theorem generate_of_document {d : Schema.Document} (h : (Schema.read sdl).result = .ok d) :
    generate p sdl s = ⟨(Schema.read sdl).events ++ (generateFrom p d s).events,
      (generateFrom p d s).result⟩ := by
  unfold generate
  dsimp only
  split
  · rename_i message hmessage
    cases h.symm.trans hmessage
  · show Traced.andThen _ _ = _
    simp only [Traced.andThen, h]

/-- Where reading fails, nothing but the text is looked at. -/
theorem generate_cases_of_error {e : Error} (h : (Schema.read sdl).result = .error e) :
    (∃ message, e = .schemaNotFound message ∧ ∀ p s, generate p sdl s =
      ⟨(Schema.read sdl).events ++ [.placeholder message], .ok placeholder⟩) ∨
    (∀ message, e ≠ .schemaNotFound message) ∧
      ∀ p s, generate p sdl s = ⟨(Schema.read sdl).events, .error e⟩ := by
  by_cases he : ∃ message, e = .schemaNotFound message
  · obtain ⟨message, rfl⟩ := he
    exact .inl ⟨message, rfl, fun p s => generate_of_schemaNotFound p s h⟩
  · have hother : ∀ message, e ≠ .schemaNotFound message := fun message hm => he ⟨message, hm⟩
    exact .inr ⟨hother, fun p s => generate_of_error p s h hother⟩

theorem generate_eq_of_error {e : Error} (h : (Schema.read sdl).result = .error e) (q : Platform)
    (t : Settings) : generate q sdl t = generate p sdl s := by
  rcases generate_cases_of_error h with ⟨message, -, hrun⟩ | ⟨-, hrun⟩
  · rw [hrun, hrun]
  · rw [hrun, hrun]

/-- A run that fails while reading gets no further. -/
theorem emits_generate_of_error {e : Error} (h : (Schema.read sdl).result = .error e) :
    (generate p sdl s).Emits fun e => e.stage = .reading ∨ e.stage = .recovery := by
  have hread := (Schema.emits_read sdl).mono fun e => Or.inl (b := e.stage = .recovery)
  rcases generate_cases_of_error h with ⟨message, -, hrun⟩ | ⟨-, hrun⟩
  · rw [hrun]
    exact List.forall_mem_append.mpr ⟨hread, List.forall_mem_singleton.mpr (.inr rfl)⟩
  · rw [hrun]
    exact hread

theorem result_generateFrom (d : Schema.Document) :
    (generateFrom p d s).result =
      (Model.build d s.scalars s.namespaceName s.clientName).result.bind fun m =>
        (m.render p s.scalars s.layout s.hooks s.filename).result := by
  unfold generateFrom
  simp only [result_bind, result_tell]
  rfl

/-- A run that builds a model does not end as one without a schema does: whatever the hooks may tell,
it has told of the model. -/
theorem generateFrom_ne_placeholder (d : Schema.Document) (message : String) :
    generateFrom p d s ≠ ⟨[.placeholder message], .ok placeholder⟩ := by
  intro h
  have hresult := result_generateFrom p s d
  rw [h] at hresult
  obtain ⟨m, hm, -⟩ := bind_eq_ok_iff.mp hresult.symm
  obtain ⟨types, inputs, enums, hmem⟩ := Model.exists_builtModel_mem_events hm
  have htold : .builtModel types inputs enums ∈ (generateFrom p d s).events := by
    unfold generateFrom
    rw [events_bind]
    exact List.mem_append_left _ hmem
  rw [h, List.mem_singleton] at htold
  cases htold

theorem schemaNotFound_iff {message : String} :
    (Schema.read sdl).result = .error (.schemaNotFound message) ↔
      generate p sdl s =
        ⟨(Schema.read sdl).events ++ [.placeholder message], .ok placeholder⟩ := by
  refine ⟨generate_of_schemaNotFound p s, fun h => ?_⟩
  cases hresult : (Schema.read sdl).result with
  | ok d =>
    rw [generate_of_document p s hresult] at h
    obtain ⟨hevents, hcode⟩ := Traced.mk.inj h
    exact absurd (Traced.ext (List.append_cancel_left hevents) hcode)
      (generateFrom_ne_placeholder p s d message)
  | error e =>
    rcases generate_cases_of_error hresult with ⟨other, rfl, hrun⟩ | ⟨-, hrun⟩
    · rw [hrun] at h
      have hsame := List.append_cancel_left (Traced.mk.inj h).1
      rw [Event.placeholder.inj (List.cons.inj hsame).1]
    · rw [hrun] at h
      cases (Traced.mk.inj h).2

end Run

namespace Schema

variable {s : String}

theorem exists_schemaSyntax_iff (hends : ∀ c ∈ s.toList, Text.isLineEnd c → Text.endsRow c) :
    (∃ report, (read s).result = .error (.schemaSyntax report)) ↔
      ¬IsBlank s ∧ ∃ offset cause, readDocument s = .error (.malformed offset cause) := by
  simp only [result_read_iff, Outcome]
  constructor
  · rintro ⟨report, hblank, offset, cause, hfault, -⟩
    exact ⟨hblank, offset, cause, hfault⟩
  · rintro ⟨hblank, offset, cause, hfault⟩
    have hshown : report? s offset cause ≠ none :=
      fun hnone => not_isOffRows hends offset ((report?_eq_none_iff s offset cause).mp hnone)
    obtain ⟨report, hreport⟩ := Option.ne_none_iff_exists'.mp hshown
    exact ⟨report, hblank, offset, cause, hfault, hreport⟩

/-- Reading runs off a text only where it ends inside an escape or has unusual line ends. -/
theorem result_read_ne_offText (hends : ∀ c ∈ s.toList, Text.isLineEnd c → Text.endsRow c)
    (hescape : ¬EndsInEscape s.toList) : (read s).result ≠ .error .offText := by
  rw [Ne, result_read_iff]
  rintro ⟨-, hfault | ⟨offset, cause, -, hoff⟩⟩
  · exact hescape (endsInEscape_of_readDocument hfault)
  · exact not_isOffRows hends offset hoff

/-- In a text without unusual line ends that does not end inside an escape, whatever the grammar
rejects is a syntax error. -/
theorem exists_schemaSyntax_iff_of_not_endsInEscape
    (hends : ∀ c ∈ s.toList, Text.isLineEnd c → Text.endsRow c)
    (hescape : ¬EndsInEscape s.toList) :
    (∃ report, (read s).result = .error (.schemaSyntax report)) ↔
      ¬IsBlank s ∧ ∀ definitions, readDocument s ≠ .ok definitions := by
  rw [exists_schemaSyntax_iff hends]
  refine and_congr_right fun _ => ⟨?_, fun h => ?_⟩
  · rintro ⟨offset, cause, hfault⟩ definitions hdefinitions
    cases hfault.symm.trans hdefinitions
  · cases hread : readDocument s with
    | ok definitions => exact absurd hread (h definitions)
    | error fault =>
      cases fault with
      | malformed offset cause => exact ⟨offset, cause, rfl⟩
      | offText => exact absurd (endsInEscape_of_readDocument hread) hescape

end Schema

/-- Reading a text ends in just one of the outcomes. It ends in a syntax error for every text that the
grammar rejects, if that has no unusual line ends and does not end inside an escape; reading runs off
no such text. The placeholder stands for the lack of a schema and for nothing else, whatever the
platform, the templates and the hooks do: where reading fails, none of them matters, and nothing is
built or rendered. Every other error of reading is the error of the run, and so is the first error of
the steps behind it, of whatever kind: building, a hook, the template, a type, the check of the text. -/
theorem generate_outcome (p : Platform) (sdl : String) (s : Settings) :
    (∀ r, (Schema.read sdl).result = r ↔ Schema.Outcome sdl r) ∧
    ((∀ c ∈ sdl.toList, Text.isLineEnd c → Text.endsRow c) →
      ((∃ report, (Schema.read sdl).result = .error (.schemaSyntax report)) ↔
        ¬Schema.IsBlank sdl ∧
          ∃ offset cause, readDocument sdl = .error (.malformed offset cause)) ∧
      (¬EndsInEscape sdl.toList → (Schema.read sdl).result ≠ .error .offText ∧
        ((∃ report, (Schema.read sdl).result = .error (.schemaSyntax report)) ↔
          ¬Schema.IsBlank sdl ∧ ∀ definitions, readDocument sdl ≠ .ok definitions))) ∧
    (∀ message, (Schema.read sdl).result = .error (.schemaNotFound message) ↔
      generate p sdl s =
        ⟨(Schema.read sdl).events ++ [.placeholder message], .ok placeholder⟩) ∧
    (∀ e, (Schema.read sdl).result = .error e → ∀ q t, generate q sdl t = generate p sdl s) ∧
    (∀ e ∈ (generate p sdl s).events, e.stage = .building ∨ e.stage = .rendering →
      ∃ d, (Schema.read sdl).result = .ok d) ∧
    (∀ e, (∀ message, e ≠ .schemaNotFound message) → (Schema.read sdl).result = .error e →
      generate p sdl s = ⟨(Schema.read sdl).events, .error e⟩) ∧
    ∀ d, (Schema.read sdl).result = .ok d → (generate p sdl s).result = (do
      let built ← (Model.build d s.scalars s.namespaceName s.clientName).result
      let m ← (s.hooks.runPre built).result
      let renderer ← s.layout.load p
      m.supported
      let content ← renderer (.ofModel s.scalars m)
      let content ← s.hooks.runPost s.filename content
      Model.checkText p.characterNames s.filename content) := by
  refine ⟨fun r => Schema.result_read_iff, fun hends => ⟨Schema.exists_schemaSyntax_iff hends,
    fun hescape => ⟨Schema.result_read_ne_offText hends hescape,
      Schema.exists_schemaSyntax_iff_of_not_endsInEscape hends hescape⟩⟩,
    fun message => schemaNotFound_iff p s, fun e he q t => generate_eq_of_error p s he q t, ?_,
    fun e he h => generate_of_error p s h he, fun d hd => ?_⟩
  · intro e he hstage
    cases hresult : (Schema.read sdl).result with
    | ok d => exact ⟨d, rfl⟩
    | error _ =>
      have hearly := emits_generate_of_error p s hresult e he
      rcases hstage with hstage | hstage <;> simp [hstage] at hearly
  · rw [generate_of_document p s hd]
    refine (result_generateFrom p s d).trans ?_
    simp only [Model.result_render]
    rfl

/-- A text that is malformed behind a line separator. -/
def brokenBehindSeparator : String := "# a\u2028b"

/-- A string that ends with the backslash of an escape. -/
def openEscape : String := "\"\\"

/-- Both texts are rejected, and neither with a syntax error. -/
theorem not_schemaSyntax_brokenBehindSeparator :
    ¬((∃ report, (Schema.read brokenBehindSeparator).result = .error (.schemaSyntax report)) ↔
      ¬Schema.IsBlank brokenBehindSeparator ∧
        ∃ offset cause, readDocument brokenBehindSeparator = .error (.malformed offset cause)) ∧
    ¬((∃ report, (Schema.read openEscape).result = .error (.schemaSyntax report)) ↔
      ¬Schema.IsBlank openEscape ∧
        ∀ definitions, readDocument openEscape ≠ .ok definitions) := by
  constructor
  · have hblank : ¬Schema.IsBlank brokenBehindSeparator :=
      fun h => absurd (h '#' (by decide)) (by decide)
    have hfault : readDocument brokenBehindSeparator =
        .error (.malformed 5 (.unexpected .endOfText)) :=
      errorOf?_eq_some_iff.mp (by decide +kernel)
    have hread : (Schema.read brokenBehindSeparator).result = .error .offText :=
      Schema.result_read_iff.mpr ⟨hblank, .inr ⟨5, _, hfault, by decide +kernel⟩⟩
    intro h
    obtain ⟨report, hreport⟩ := h.mpr ⟨hblank, 5, _, hfault⟩
    cases hread.symm.trans hreport
  · have hblank : ¬Schema.IsBlank openEscape := fun h => absurd (h '\\' (by decide)) (by decide)
    have hfault : readDocument openEscape = .error .offText :=
      errorOf?_eq_some_iff.mp (by decide +kernel)
    have hread : (Schema.read openEscape).result = .error .offText :=
      Schema.result_read_iff.mpr ⟨hblank, .inl hfault⟩
    intro h
    obtain ⟨report, hreport⟩ := h.mpr ⟨hblank, fun definitions hok => by cases hfault.symm.trans hok⟩
    cases hread.symm.trans hreport

end SchemaClient
