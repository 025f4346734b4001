import SchemaClient.Proofs.First
import SchemaClient.Proofs.Schema.Declared
import SchemaClient.Proofs.Text.Line

/-! What becomes of a schema text: which error it is refused with, or that it has a document. Of
several definitions without a place the first is reported, and a missing schema block only where
there is none of them. -/
namespace SchemaClient

open Sdl

/-! ### Definitions without a place -/

/-- The definition is of a construct that no client has. It is reported by this construct and a
name. -/
inductive Sdl.Definition.Unsupported : Definition → String → String → Prop
  | interface (name) : Unsupported (.interface name) "interface" name
  | union (name) : Unsupported (.union name) "union" name
  | directive (name) : Unsupported (.directive name) "directive" name
  | implementation (block interface others) :
    Unsupported (.object block (interface :: others)) "interface implementation"
      (block.name ++ " implements " ++ interface)

def Sdl.Definition.IsUnsupported (x : Definition) : Prop :=
  ∃ construct name, x.Unsupported construct name

namespace Schema

theorem rejection?_eq_some_iff {x : Definition} {e : Error} :
    rejection? x = some e ↔
      ∃ construct name, x.Unsupported construct name ∧
        e = .unsupportedConstruct construct (some name) := by
  constructor
  · intro h
    unfold rejection? at h
    split at h
    all_goals cases h
    · exact ⟨_, _, .interface _, rfl⟩
    · exact ⟨_, _, .union _, rfl⟩
    · exact ⟨_, _, .directive _, rfl⟩
    · exact ⟨_, _, .implementation _ _ _, rfl⟩
  · rintro ⟨construct, name, hx, rfl⟩
    cases hx <;> rfl

theorem rejection?_eq_none_iff {x : Definition} : rejection? x = none ↔ ¬x.IsUnsupported := by
  rw [Option.eq_none_iff_forall_ne_some]
  constructor
  · rintro h ⟨construct, name, hx⟩
    exact h _ (rejection?_eq_some_iff.mpr ⟨construct, name, hx, rfl⟩)
  · intro h e he
    obtain ⟨construct, name, hx, -⟩ := rejection?_eq_some_iff.mp he
    exact h ⟨construct, name, hx⟩

/-- Whether a definition is refused does not depend on those before it. -/
theorem result_foldlM_step_eq_error {definitions : List Definition} {draft : Draft} {e : Error} :
    (definitions.foldlM Draft.step draft).result = .error e ↔
      ∃ x, IsFirst Definition.IsUnsupported definitions x ∧ rejection? x = some e := by
  induction definitions generalizing draft with
  | nil => simp
  | cons x rest ih =>
    simp only [List.foldlM_cons, Traced.result_bind_eq_error, result_step, ih, isFirst_cons]
    cases hx : rejection? x with
    | some e' =>
      have hunsupported : x.IsUnsupported := by
        by_contra h
        simp [rejection?_eq_none_iff.mpr h] at hx
      simp [hunsupported, hx]
    | none =>
      have hsupported := rejection?_eq_none_iff.mp hx
      simp [hsupported]

/-- A merge fails at the first definition without a place, and else for the lack of a schema
block. -/
theorem result_merge_eq_error {definitions : List Definition} {e : Error} :
    (merge definitions).result = .error e ↔
      (∃ x, IsFirst Definition.IsUnsupported definitions x ∧ rejection? x = some e) ∨
        (∀ x ∈ definitions, ¬x.IsUnsupported) ∧ (∀ x ∈ definitions, x.isSchema = false) ∧
          e = .noSchema := by
  unfold merge
  rw [Traced.result_bind_eq_error, result_foldlM_step_eq_error]
  simp only [result_foldlM_step, foldl_add_eq, rejection?_eq_none_iff]
  refine or_congr_right ?_
  constructor
  · rintro ⟨draft, ⟨hall, rfl⟩, h⟩
    split_ifs at h with hschema
    · cases h
    · refine ⟨hall, by simpa using hschema, (Except.error.inj h).symm⟩
  · rintro ⟨hall, hschema, rfl⟩
    refine ⟨_, ⟨hall, rfl⟩, ?_⟩
    rw [if_neg (by simpa using hschema)]
    rfl

/-! ### Faults that cannot be shown -/

/-- The place of a fault lies beyond the rows of the text, since more kinds of line ends count for
the place than for the rows. -/
def IsOffRows (s : String) (offset : Nat) : Prop :=
  (Text.rows s.toList).length < (Location.of s.toList offset).line

instance (s : String) (offset : Nat) : Decidable (IsOffRows s offset) :=
  Nat.decLt _ _

theorem Location.line_pos (source : List Char) (offset : Nat) :
    0 < (Location.of source offset).line := by
  unfold Location.of
  dsimp only
  split
  · exact Nat.one_pos
  · rename_i last hlast
    exact List.length_pos_of_mem (List.mem_of_getLast? hlast)

theorem excerptRows_eq_none_iff {source : List Char} {place : Location} :
    excerptRows source place = none ↔ (Text.rows source)[place.line - 1]? = none := by
  unfold excerptRows
  dsimp only
  cases (Text.rows source)[place.line - 1]? with
  | none => simp
  | some row =>
    rw [Option.bind_eq_bind, Option.bind_some]
    split_ifs <;> simp

theorem report?_eq_none_iff (s : String) (offset : Nat) (cause : Cause) :
    report? s offset cause = none ↔ IsOffRows s offset := by
  have hline := Location.line_pos s.toList offset
  have hrows : report? s offset cause = none ↔
      excerptRows s.toList (Location.of s.toList offset) = none := by
    unfold report?
    dsimp only
    cases excerptRows s.toList (Location.of s.toList offset) <;> simp
  rw [hrows, excerptRows_eq_none_iff, List.getElem?_eq_none_iff, IsOffRows]
  omega

/-- The place of a fault can be shown in a text without unusual line ends. -/
theorem not_isOffRows {s : String} (h : ∀ c ∈ s.toList, Text.isLineEnd c → Text.endsRow c)
    (offset : Nat) : ¬IsOffRows s offset := by
  unfold IsOffRows Location.of
  dsimp only
  split
  · exact Nat.not_lt.mpr (Text.length_rowsFrom_pos [] _)
  · exact Nat.not_lt.mpr (Text.length_lines_take_le h offset)

/-! ### Outcomes -/

/-- White space and nothing else. -/
def IsBlank (s : String) : Prop :=
  ∀ c ∈ s.toList, Text.isBlank c

/-- When reading a text ends in each of the ways that it can end in. -/
def Outcome (s : String) : Except Error Document → Prop
  | .error (.schemaNotFound message) =>
    Error.schemaNotFound message = .noSchema ∧
      (IsBlank s ∨ ∃ definitions, readDocument s = .ok definitions ∧
        (∀ x ∈ definitions, ¬x.IsUnsupported) ∧ ∀ x ∈ definitions, x.isSchema = false)
  | .error (.schemaSyntax report) =>
    ¬IsBlank s ∧ ∃ offset cause, readDocument s = .error (.malformed offset cause) ∧
      report? s offset cause = some report
  | .error .offText =>
    ¬IsBlank s ∧ (readDocument s = .error .offText ∨
      ∃ offset cause, readDocument s = .error (.malformed offset cause) ∧ IsOffRows s offset)
  | .error (.unsupportedConstruct construct name) =>
    ∃ definitions x label, readDocument s = .ok definitions ∧
      IsFirst Definition.IsUnsupported definitions x ∧ x.Unsupported construct label ∧
      name = some label
  | .ok d =>
    ∃ definitions, readDocument s = .ok definitions ∧ (∀ x ∈ definitions, ¬x.IsUnsupported) ∧
      (∃ x ∈ definitions, x.isSchema) ∧ d = .declared definitions
  | .error _ => False

section Read

variable {s : String} {definitions : List Definition} {fault : Fault}

theorem not_isBlank_of_readDocument (h : readDocument s = .ok definitions) : ¬IsBlank s := by
  intro hblank
  have hall := not_all_isBlank_of_readDocument h
  rw [List.all_eq_true.mpr hblank] at hall
  cases hall

theorem result_read_of_isBlank (h : IsBlank s) : (read s).result = .error .noSchema := by
  unfold read
  rw [if_pos (List.all_eq_true.mpr h)]
  rfl

theorem result_read_of_fault (hblank : ¬IsBlank s) (h : readDocument s = .error fault) :
    (read s).result = .error (faultError s fault) := by
  unfold read
  rw [if_neg fun hall => hblank (List.all_eq_true.mp hall), h]
  rfl

theorem result_read_of_definitions (h : readDocument s = .ok definitions) :
    (read s).result = (merge definitions).result := by
  unfold read
  rw [if_neg (by simp [not_all_isBlank_of_readDocument h]), h]

theorem outcome_of_isBlank (h : IsBlank s) {r : Except Error Document} :
    Outcome s r ↔ r = .error .noSchema := by
  have hnone : ∀ definitions, readDocument s ≠ .ok definitions :=
    fun _ hread => not_isBlank_of_readDocument hread h
  cases r with
  | ok d => simp [Outcome, hnone]
  | error e => cases e <;> simp [Outcome, hnone, h, Error.noSchema]

theorem outcome_of_fault (hblank : ¬IsBlank s) (h : readDocument s = .error fault)
    {r : Except Error Document} : Outcome s r ↔ r = .error (faultError s fault) := by
  cases fault with
  | offText =>
    cases r with
    | ok d => simp [Outcome, h]
    | error e => cases e <;> simp [Outcome, h, hblank, faultError]
  | malformed offset cause =>
    rw [faultError]
    cases hreport : report? s offset cause with
    | none =>
      have hoff := (report?_eq_none_iff s offset cause).mp hreport
      cases r with
      | ok d => simp [Outcome, h]
      | error e => cases e <;> simp [Outcome, h, hblank, hreport, hoff]
    | some report =>
      have hoff : ¬IsOffRows s offset := by
        rw [← report?_eq_none_iff s offset cause, hreport]
        simp
      cases r with
      | ok d => simp [Outcome, h]
      | error e =>
        cases e with
        | schemaSyntax other =>
          constructor
          · rintro ⟨-, offset', cause', hfault, hother⟩
            cases h.symm.trans hfault
            cases hreport.symm.trans hother
            rfl
          · intro hother
            cases hother
            exact ⟨hblank, offset, cause, h, hreport⟩
        | _ => simp [Outcome, h, hblank, hoff]

theorem outcome_of_definitions (h : readDocument s = .ok definitions)
    {r : Except Error Document} : Outcome s r ↔ (merge definitions).result = r := by
  have hblank := not_isBlank_of_readDocument h
  cases r with
  | ok d => simp [Outcome, h, result_merge_iff, rejection?_eq_none_iff]
  | error e =>
    rw [result_merge_eq_error]
    cases e with
    | schemaNotFound message =>
      constructor
      · rintro ⟨hmessage, hempty | ⟨others, hothers, hall, hschema⟩⟩
        · exact absurd hempty hblank
        · cases h.symm.trans hothers
          exact .inr ⟨hall, hschema, hmessage⟩
      · rintro (⟨x, -, hx⟩ | ⟨hall, hschema, hmessage⟩)
        · obtain ⟨construct, name, -, hx⟩ := rejection?_eq_some_iff.mp hx
          cases hx
        · exact ⟨hmessage, .inr ⟨definitions, h, hall, hschema⟩⟩
    | unsupportedConstruct construct name =>
      simp [Outcome, h, rejection?_eq_some_iff, Error.noSchema]
    | _ => simp [Outcome, h, rejection?_eq_some_iff, Error.noSchema]

/-- Every text ends in just one of the outcomes. -/
theorem result_read_iff {r : Except Error Document} : (read s).result = r ↔ Outcome s r := by
  by_cases hblank : IsBlank s
  · rw [outcome_of_isBlank hblank, result_read_of_isBlank hblank, eq_comm]
  · cases hread : readDocument s with
    | error fault => rw [outcome_of_fault hblank hread, result_read_of_fault hblank hread, eq_comm]
    | ok definitions => rw [outcome_of_definitions hread, result_read_of_definitions hread]

end Read

end Schema

end SchemaClient
