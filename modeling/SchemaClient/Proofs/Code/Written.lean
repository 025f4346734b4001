import SchemaClient.Proofs.Code.Scan
import SchemaClient.Proofs.Grammar.Expression
import SchemaClient.Proofs.Descriptor.Hint
import SchemaClient.Proofs.Module.Parameter
import SchemaClient.Proofs.Table

/-! Expressions that a module is written in: names, hints, projections and default values. -/
namespace SchemaClient.Code

open Expression (isName)
open Reader (isIdentifier)

/-- Within the brackets that `closers` are to close, the text makes lexemes of a kind. -/
def Writes (P : List Lexeme → Prop) (closers : List String) (t : String) : Prop :=
  ∃ ls, P ls ∧ Scans closers t.toList ls

def IsAtomic (ls : List Lexeme) : Prop :=
  ∃ s, IsPrimary ls s

variable {closers : List String} {t u w : String}

theorem Writes.mono {P Q : List Lexeme → Prop} (h : Writes P closers t) (hPQ : ∀ ls, P ls → Q ls) :
    Writes Q closers t := by
  obtain ⟨ls, hls, hscan⟩ := h
  exact ⟨ls, hPQ ls hls, hscan⟩

theorem IsAtomic.isSum {ls : List Lexeme} (h : IsAtomic ls) : IsSum ls :=
  h.elim fun _ hs => hs.isSum

theorem Writes.isSum (h : Writes IsAtomic closers t) : Writes IsSum closers t :=
  h.mono fun _ => IsAtomic.isSum

theorem Writes.isExpression (h : Writes IsSum closers t) : Writes IsExpression closers t :=
  h.mono fun _ => IsSum.isExpression

/-! ### Names -/

theorem isName_iff : isName w ↔ Text.isIdentifier w.toList ∧ isIdentifier w := by
  rw [isName, isIdentifier, Bool.and_eq_true]

theorem writes_name (h : isName w) : Writes IsAtomic closers w :=
  ⟨[.word w], ⟨_, isPrimary_name (isName_iff.mp h).2⟩, scans_word (isName_iff.mp h).1⟩

theorem writes_constant (h : w ∈ ["None", "True", "False"]) : Writes IsAtomic closers w := by
  refine ⟨[.word w], ⟨_, isPrimary_constant h⟩, scans_word ?_⟩
  simp only [List.mem_cons, List.not_mem_nil, or_false] at h
  rcases h with rfl | rfl | rfl <;> decide

/-- Names and constants may stand for a type. -/
def isTypeName (w : String) : Bool :=
  isName w || ["None", "True", "False"].contains w

theorem writes_typeName (h : isTypeName w) : Writes IsAtomic closers w := by
  rcases Bool.or_eq_true_iff.mp h with h | h
  · exact writes_name h
  · exact writes_constant (List.contains_iff_mem.mp h)

theorem startsName_of_isName (h : isName w) : StartsName w.toList :=
  startsName_of_isIdentifier (isName_iff.mp h).1

theorem writes_attribute {v : String} (hv : isName v) (hw : isName w) :
    Writes IsAtomic closers (v ++ "." ++ w) := by
  refine ⟨[.word v] ++ [.mark ".", .word w],
    ⟨_, (isPrimary_name (isName_iff.mp hv).2).attribute (isName_iff.mp hw).2⟩, ?_⟩
  rw [String.toList_append, String.toList_append, List.append_assoc]
  exact (scans_word (isName_iff.mp hw).1).dotted (isName_iff.mp hv).1 (startsName_of_isName hw)

theorem writes_text (t : String) : Writes IsAtomic closers (Text.stringLiteral t) :=
  ⟨[.text false], ⟨_, isPrimary_text⟩, scans_text t⟩

/-! ### Hints -/

theorem writes_orNone (h : Writes IsAtomic closers t) (nullable : Bool) :
    Writes IsSum closers (orNone t nullable) := by
  unfold orNone
  split_ifs
  · obtain ⟨ls, ⟨s, hls⟩, hscan⟩ := h
    have hnone : Scans closers "None".toList [.word "None"] := scans_word (by decide)
    refine ⟨ls ++ [.mark "|", .word "None"], hls.orNone, ?_⟩
    rw [String.toList_append]
    exact hscan.append (by decide) (hnone.gap.mark (by decide : '|' ∈ looseMarks)).gap
  · exact h.isSum

/-- A name with an expression in square brackets behind it. -/
theorem Writes.subscript (hw : isName w) (h : Writes IsExpression ("]" :: closers) t)
    (hlength : closers.length < maxBrackets) : Writes IsAtomic closers (w ++ "[" ++ t ++ "]") := by
  obtain ⟨ls, hls, hscan⟩ := h
  refine ⟨[.word w] ++ .mark "[" :: (ls ++ [.mark "]"]),
    ⟨_, (isPrimary_name (isName_iff.mp hw).2).subscript hls.isSubscripts⟩, ?_⟩
  have hbrackets := Scans.brackets .square hscan hlength
  simpa using (scans_word (isName_iff.mp hw).1).append (by decide) hbrackets

/-- A type of two others. -/
theorem writes_pair {v a b : String} (hv : isName v) (hw : isName w)
    (ha : Writes IsExpression ("]" :: closers) a) (hb : Writes IsExpression ("]" :: closers) b)
    (hlength : closers.length < maxBrackets) :
    Writes IsAtomic closers (v ++ "." ++ w ++ "[" ++ a ++ ", " ++ b ++ "]") := by
  obtain ⟨ls, hls, hscan⟩ := ha
  obtain ⟨ms, hms, kscan⟩ := hb
  have hprimary := ((isPrimary_name (isName_iff.mp hv).2).attribute (isName_iff.mp hw).2).subscript
    (hls.moreSubscripts hms.isSubscripts (hms.starts.append (by decide) (by decide) _))
  refine ⟨_, ⟨_, hprimary⟩, ?_⟩
  have hinner := hscan.append (by decide) (kscan.gap.mark (by decide : ',' ∈ looseMarks))
  have hname : Scans closers w.toList [.word w] := scans_word (isName_iff.mp hw).1
  have hpair := (hname.append (by decide) (Scans.brackets .square hinner hlength)).dotted
    (isName_iff.mp hv).1 ((startsName_of_isName hw).append _)
  simpa using hpair

theorem writes_standardType (name : String) :
    Writes IsAtomic closers (ScalarRegistry.typeText .standard name) := by
  have hunmapped : Writes IsAtomic closers ScalarRegistry.unmapped :=
    writes_attribute (v := "typing") (w := "Any") (by decide) (by decide)
  unfold ScalarRegistry.typeText
  split
  · rename_i text h
    rw [Table.get?_eq_some_iff (by decide)] at h
    have hall : ScalarRegistry.builtins.all fun p => isName p.2 := by decide
    exact writes_name (List.all_eq_true.mp hall _ h)
  · split
    · rename_i mapping h
      rw [Table.get?_eq_some_iff (by decide)] at h
      have hall : ScalarRegistry.standard.all fun p =>
          isName p.2.typeText || p.2.typeText == ScalarRegistry.unmapped := by decide
      have hmapping := List.all_eq_true.mp hall _ h
      simp only [Bool.or_eq_true, beq_iff_eq] at hmapping
      rcases hmapping with hname | heq
      · exact writes_name hname
      · rw [heq]
        exact hunmapped
    · exact hunmapped

/-- The name of a type that is no scalar can be written. -/
def IsWritten (d : Descriptor) : Prop :=
  d.kind ≠ .scalar → isTypeName d.name

theorem writes_hint {d : Descriptor} (h : IsWritten d)
    (hlength : closers.length + d.listLevels ≤ maxBrackets) :
    Writes IsSum closers (d.hint .standard) := by
  induction d generalizing closers with
  | leaf kind name n =>
    cases kind with
    | scalar => exact writes_orNone (writes_standardType name) n
    | _ => exact writes_orNone (writes_typeName (h (by simp [Descriptor.kind]))) n
  | list element n ih =>
    have hle : closers.length + (element.listLevels + 1) ≤ maxBrackets := hlength
    have helement : Writes IsSum ("]" :: closers) (element.hint .standard) :=
      ih h (by simp only [List.length_cons]; omega)
    exact writes_orNone (helement.isExpression.subscript (w := "list") (by decide) (by omega)) n

/-! ### Projections -/

variable {e f : Expr}

theorem writes_guarded (n : Bool) (h : Writes IsAtomic closers e.text)
    (k : Writes IsSum closers f.text) :
    Writes IsExpression closers (Descriptor.guarded n e f).text := by
  cases n with
  | false => exact k.isExpression
  | true =>
    obtain ⟨ls, ⟨s, hls⟩, hscan⟩ := h
    obtain ⟨ms, hms, kscan⟩ := k
    refine ⟨_, hms.ifPresent hls, ?_⟩
    have htail : Scans closers (' ' :: "is not None else None".toList)
        [.word "is", .word "not", .word "None", .word "else", .word "None"] := by
      have hword : ∀ w ∈ ["is", "not", "None", "else"], Scans closers w.toList [.word w] := by
        intro w hw
        refine scans_word ?_
        revert w
        decide
      have hnone := (hword "None" (by decide)).gap
      exact ((hword "is" (by decide)).append (by decide) ((hword "not" (by decide)).append (by decide)
        ((hword "None" (by decide)).append (by decide) ((hword "else" (by decide)).append (by decide)
          hnone).gap).gap).gap).gap
    have hif : Scans closers "if".toList [.word "if"] := scans_word (by decide)
    have hwhole := kscan.append (by decide)
      (hif.append (by decide) (hscan.append (by decide) htail).gap).gap
    simpa [Descriptor.guarded, Expr.text] using hwhole

theorem writes_call (hw : isName w) (h : Writes IsAtomic (")" :: closers) e.text)
    (hlength : closers.length < maxBrackets) :
    Writes IsAtomic closers (Expr.call w e).text := by
  obtain ⟨ls, ⟨s, hls⟩, hscan⟩ := h
  have harguments : IsArguments 0 (ls ++ [.mark ")"]) := hls.isExpression.positional .close
  refine ⟨[.word w] ++ .mark "(" :: (ls ++ [.mark ")"]),
    ⟨_, (isPrimary_name (isName_iff.mp hw).2).call (harguments true)⟩, ?_⟩
  have hbrackets := Scans.brackets .round hscan hlength
  simpa [Expr.text] using (scans_word (isName_iff.mp hw).1).append (by decide) hbrackets

theorem writes_each {item : String} (hitem : isName item)
    (h : Writes IsExpression ("]" :: closers) e.text) (k : Writes IsAtomic ("]" :: closers) f.text)
    (hlength : closers.length < maxBrackets) :
    Writes IsAtomic closers (Expr.each e item f).text := by
  obtain ⟨ls, hls, hscan⟩ := h
  obtain ⟨ms, hms, kscan⟩ := k
  refine ⟨_, ⟨_, hls.each (isName_iff.mp hitem).2 hms.isSum⟩, ?_⟩
  have hword : ∀ {w}, Text.isIdentifier w.toList → Scans ("]" :: closers) w.toList [.word w] :=
    scans_word
  have hfor := hword (w := "for") (by decide)
  have hin := hword (w := "in") (by decide)
  have hinner := hscan.append (by decide) (hfor.append (by decide)
    ((hword (isName_iff.mp hitem).1).append (by decide)
      (hin.append (by decide) kscan.gap).gap).gap).gap
  simpa [Expr.text] using Scans.brackets .square hinner hlength

theorem writes_project {selector : String} (hselector : isName selector) {d : Descriptor}
    {depth : Nat} (he : ∀ closers, Writes IsAtomic closers e.text)
    (hlength : closers.length + d.listLevels < maxBrackets) :
    Writes IsExpression closers (d.project selector depth e).text := by
  induction d generalizing closers depth e with
  | leaf kind name n =>
    cases kind with
    | object => exact writes_guarded n (he _) (writes_call hselector (he _) hlength).isSum
    | _ => exact (he _).isSum.isExpression
  | list element n ih =>
    have hlt : closers.length + (element.listLevels + 1) < maxBrackets := hlength
    unfold Descriptor.project
    split_ifs
    · have hitem := Expression.isName_itemName depth
      have hbody : Writes IsExpression ("]" :: closers) (element.project selector
          ((depth + 1 : Nat) : Int) (.atom (itemName depth))).text :=
        ih (fun _ => writes_name hitem) (by simp only [List.length_cons]; omega)
      push_cast at hbody
      exact writes_guarded n (he _) (writes_each hitem hbody (he _) (by omega)).isSum
    · exact (he _).isSum.isExpression

/-! ### Default values -/

open Sdl (IsNumber)

/-- A number that is not too long to be read. -/
def IsShortNumber (spelling : String) : Prop :=
  ∃ whole, IsNumber whole spelling.toList ∧
    (whole → (spelling.toList.filter Char.isDigit).length ≤ maxIntegerDigits)

theorem writes_number (h : IsShortNumber t) : Writes IsSum closers t := by
  obtain ⟨whole, ⟨sign, digits, f, e, heq, hsign, hdigits, hf, he, rfl⟩, hlength⟩ := h
  have hall := (isDigits_of_isWhole hdigits).2
  have hscan : Scans closers (digits ++ (f ++ e)) [.number false] := by
    refine scans_number hdigits hf he fun hwhole => le_trans ?_ (hlength hwhole)
    rw [heq, List.filter_append, List.filter_append, List.filter_append,
      List.filter_eq_self.mpr hall]
    simp only [List.length_append]
    omega
  rcases hsign with rfl | rfl
  · refine ⟨_, (isPrimary_number false).isSum, ?_⟩
    simpa [heq] using hscan
  · refine ⟨_, isSum_negative false, ?_⟩
    simpa [heq] using hscan.mark (by decide : '-' ∈ looseMarks)

/-- Values that can be written in at most so many brackets. -/
inductive IsWrittenValue : Nat → Value → Prop
  | none {n} : IsWrittenValue n .none
  | number {n spelling} : IsShortNumber spelling → IsWrittenValue n (.number spelling)
  | text {n} (s) : IsWrittenValue n (.text s)
  | boolean {n} (b) : IsWrittenValue n (.boolean b)
  | member {n enum name} : isName enum → isName name → IsWrittenValue n (.member enum name)
  | list {n items} : (∀ v ∈ items, IsWrittenValue n v) → IsWrittenValue (n + 1) (.list items)

/-- Items with commas between them. -/
theorem writes_join {P R : List Lexeme → Prop} (last : ∀ ls, P ls → R ls)
    (more : ∀ ls ms, P ls → R ms → R (ls ++ .mark "," :: ms)) {first : String}
    {others : List String} (h : ∀ t ∈ first :: others, Writes P closers t) :
    Writes R closers (Text.join ", " (first :: others)) := by
  obtain ⟨ls, hls, hscan⟩ := h first (by simp)
  induction others generalizing first ls with
  | nil => exact ⟨ls, last ls hls, hscan⟩
  | cons second others ih =>
    obtain ⟨ms, hms, kscan⟩ := h second (by simp)
    obtain ⟨ms, hms, kscan⟩ := @ih second (fun t ht => h t (List.mem_cons_of_mem _ ht)) ms hms kscan
    refine ⟨ls ++ .mark "," :: ms, more ls ms hls hms, ?_⟩
    have htail := kscan.gap.mark (by decide : ',' ∈ looseMarks)
    simpa [Text.join] using hscan.append (by decide) htail

theorem expressions_eq_map (items : List Value) :
    Value.expressions items = items.map Value.expression := by
  induction items with
  | nil => rfl
  | cons v items ih => rw [Value.expressions, ih, List.map_cons]

theorem writes_list {items : List String} (h : ∀ t ∈ items, Writes IsExpression ("]" :: closers) t)
    (hlength : closers.length < maxBrackets) :
    Writes IsAtomic closers ("[" ++ Text.join ", " items ++ "]") := by
  cases items with
  | nil =>
    refine ⟨_, ⟨_, isPrimary_nil⟩, ?_⟩
    exact Scans.brackets .square scans_nil hlength
  | cons first more =>
    have hjoin : Writes (fun ls => ∃ as bs, ls = as ++ bs ∧ IsExpression as ∧
        IsMoreElements "]" (bs ++ [.mark "]"])) ("]" :: closers) (Text.join ", " (first :: more)) := by
      refine writes_join (fun ls hls => ⟨ls, [], by simp, hls, .close⟩) ?_ h
      rintro ls ms hls ⟨as, bs, rfl, has, hbs⟩
      refine ⟨ls, .mark "," :: (as ++ bs), rfl, hls, ?_⟩
      simpa using IsMoreElements.comma (has.elements (by simp) hbs)
    obtain ⟨-, ⟨ls, ms, rfl, hls, hms⟩, hscan⟩ := hjoin
    obtain ⟨s, hdisplay⟩ := hls.display hms
    refine ⟨_, ⟨s, hdisplay⟩, ?_⟩
    simpa using Scans.brackets .square hscan hlength

theorem writes_value {n : Nat} {v : Value} (h : IsWrittenValue n v)
    (hlength : closers.length + n ≤ maxBrackets) : Writes IsSum closers v.expression := by
  induction h generalizing closers with
  | none => exact (writes_constant (by simp [Value.expression])).isSum
  | number h => exact writes_number h
  | text s => exact (writes_text s).isSum
  | boolean b => cases b <;> exact (writes_constant (by simp [Value.expression])).isSum
  | member henum hname => exact (writes_attribute henum hname).isSum
  | list _ ih =>
    rw [Value.expression, expressions_eq_map]
    refine (writes_list (fun t ht => ?_) (by omega)).isSum
    obtain ⟨v, hv, rfl⟩ := List.mem_map.mp ht
    exact (ih v hv (by simp only [List.length_cons]; omega)).isExpression

end SchemaClient.Code
