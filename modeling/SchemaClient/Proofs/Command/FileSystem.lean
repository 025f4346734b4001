import Mathlib
import SchemaClient.Command.FileSystem

/-! Writing a file together with the directories that it needs: when it can be done, and what
changes in the file system if it is done or given up. -/
namespace SchemaClient

namespace FileSystem

/-! ### Entries -/

section Entries

variable {fs : FileSystem} {p : Place}

theorem entry_eq_directory_iff : fs.entry p = .directory ↔ fs.isDirectory p = true := by
  unfold entry
  split_ifs with h
  · simp [h]
  · split <;> simp [h]

theorem entry_ne_file_iff :
    (∀ content, fs.entry p ≠ .file content) ↔ fs.isDirectory p = true ∨ fs.file? p = none := by
  unfold entry
  split_ifs with h
  · simp [h]
  · cases fs.file? p <;> simp [h]

theorem entry_makeDirectory (p q : Place) :
    (fs.makeDirectory p).entry q = if q = p then .directory else fs.entry q := by
  have hdirectory : (fs.makeDirectory p).isDirectory q = (fs.isDirectory q || decide (q = p)) := by
    simp [isDirectory, makeDirectory, Bool.or_assoc]
  unfold entry
  rw [hdirectory]
  by_cases hq : q = p
  · simp [hq]
  · simp [hq, makeDirectory, file?]

theorem file?_write (fs : FileSystem) (p : Place) (content : ByteArray) (q : Place) :
    (fs.write p content).file? q = if q = p then some content else fs.file? q := by
  unfold file? write
  rw [List.find?_append]
  by_cases hq : q = p
  · subst hq
    have hnone : (fs.files.filter fun f => f.1 != q).find? (fun f => f.1 == q) = none := by
      rw [List.find?_eq_none]
      intro f hf
      simpa using (List.mem_filter.mp hf).2
    rw [hnone]
    simp
  · have hsame : (fs.files.filter fun f => f.1 != p).find? (fun f => f.1 == q) =
        fs.files.find? (fun f => f.1 == q) := by
      rw [List.find?_filter]
      congr 1
      funext f
      by_cases hf : f.1 = q <;> simp [hf, hq]
    rw [hsame, if_neg hq]
    simp [Ne.symm hq]

theorem workingDirectory_write (fs : FileSystem) (p : Place) (content : ByteArray) :
    (fs.write p content).workingDirectory = fs.workingDirectory := rfl

theorem entry_write (h : fs.entry p ≠ .directory) (content : ByteArray) (q : Place) :
    (fs.write p content).entry q = if q = p then .file content else fs.entry q := by
  have hplain : fs.isDirectory p = false := by
    simpa [entry_eq_directory_iff] using h
  have hdirectory : (fs.write p content).isDirectory q = fs.isDirectory q := rfl
  unfold entry
  rw [hdirectory, file?_write]
  by_cases hq : q = p
  · simp [hq, hplain]
  · simp [hq]

end Entries

/-! ### Following names -/

/-- The places that names lead through. Where they end is not among them. -/
def through (here : Place) : List String → List Place
  | [] => []
  | name :: rest => here :: through (step here name) rest

/-- The place where names end. -/
def goal (here : Place) (names : List String) : Place :=
  names.foldl step here

theorem through_concat (here : Place) (names : List String) (name : String) :
    through here (names ++ [name]) = through here names ++ [goal here names] := by
  induction names generalizing here with
  | nil => rfl
  | cons first rest ih =>
    rw [List.cons_append, through, ih, through, List.cons_append]
    rfl

/-- All places that names lead to, one after the other. -/
def stops (here : Place) (names : List String) : List Place :=
  through here names ++ [goal here names]

theorem through_take_succ_subset (here : Place) (names : List String) (k : ℕ) :
    through here (names.take (k + 1)) ⊆ stops here (names.take k) := by
  rw [List.take_add_one]
  cases names[k]? with
  | none => simp [stops]
  | some name => rw [Option.toList_some, through_concat, stops]; exact List.Subset.refl _

theorem stops_take_subset (here : Place) (names : List String) (k : ℕ) :
    stops here (names.take k) ⊆ stops here (names.take (k + 1)) := by
  rw [List.take_add_one]
  cases names[k]? with
  | none => simp
  | some name =>
    rw [Option.toList_some, stops, stops, through_concat]
    exact List.subset_append_left _ _

section Walk

variable {fs : FileSystem} {here p : Place} {names : List String}

/-- Names can be followed where they lead through directories and are not too long. -/
theorem walk_eq_ok_iff : fs.walk here names = .ok p ↔
    (∀ q ∈ through here names, fs.entry q = .directory) ∧
      (∀ name ∈ names, name.utf8ByteSize ≤ maxNameBytes) ∧ p = goal here names := by
  induction names generalizing here with
  | nil => simp [walk, through, goal, eq_comm]
  | cons name rest ih =>
    rw [walk, through, List.forall_mem_cons, List.forall_mem_cons, goal, List.foldl_cons]
    cases fs.entry here with
    | missing => simp
    | file content => simp
    | directory =>
      by_cases hname : maxNameBytes < name.utf8ByteSize
      · simp [hname]
      · rw [if_neg hname, ih]
        simp [Nat.le_of_not_lt hname, goal]

/-- Where no file is in the way, only a missing directory can be. -/
theorem walk_eq_missing (hfiles : ∀ q ∈ through here names, ∀ content, fs.entry q ≠ .file content)
    (hnames : ∀ name ∈ names, name.utf8ByteSize ≤ maxNameBytes)
    (h : ¬∀ q ∈ through here names, fs.entry q = .directory) :
    fs.walk here names = .error .missing := by
  induction names generalizing here with
  | nil => exact absurd (fun q hq => nomatch hq) h
  | cons name rest ih =>
    rw [through, List.forall_mem_cons] at hfiles h
    rw [List.forall_mem_cons] at hnames
    rw [walk]
    cases hentry : fs.entry here with
    | missing => rfl
    | file content => exact absurd hentry (hfiles.1 content)
    | directory =>
      dsimp only
      rw [if_neg (Nat.not_lt.mpr hnames.1)]
      exact ih hfiles.2 hnames.2 fun hall => h ⟨hentry, hall⟩

end Walk

/-! ### Lengths of paths -/

theorem utf8ByteSize_join_le (separator : String) {names more : List String} (h : names <+: more) :
    (Text.join separator names).utf8ByteSize ≤ (Text.join separator more).utf8ByteSize := by
  induction names generalizing more with
  | nil => exact Nat.zero_le _
  | cons name rest ih =>
    obtain ⟨tail, rfl⟩ := h
    cases rest with
    | nil =>
      cases tail with
      | nil => exact le_rfl
      | cons other tail =>
        simp only [List.cons_append, List.nil_append, Text.join, String.utf8ByteSize_append]
        omega
    | cons next rest =>
      have hle := ih (List.prefix_append (next :: rest) tail)
      simp only [List.cons_append, Text.join, String.utf8ByteSize_append] at hle ⊢
      omega

theorem utf8ByteSize_showParts (root : String) (names : List String) :
    (showParts root names).utf8ByteSize = max 1 (root ++ Text.join "/" names).utf8ByteSize := by
  unfold showParts
  split
  · rename_i hempty
    rw [hempty]
    rfl
  · rename_i hshown
    have hpos : (root ++ Text.join "/" names).utf8ByteSize ≠ 0 :=
      fun h => hshown (String.utf8ByteSize_eq_zero_iff.mp h)
    omega

/-- A path is no shorter than the paths to the directories on its way. -/
theorem utf8ByteSize_showParts_le (root : String) {names more : List String} (h : names <+: more) :
    (showParts root names).utf8ByteSize ≤ (showParts root more).utf8ByteSize := by
  have hle := utf8ByteSize_join_le "/" h
  rw [utf8ByteSize_showParts, utf8ByteSize_showParts, String.utf8ByteSize_append,
    String.utf8ByteSize_append]
  omega

theorem follow_of_short {path : String} {names : List String}
    (h : (showParts (rootOf path) names).utf8ByteSize ≤ maxPathBytes) (fs : FileSystem) :
    fs.follow path names = fs.walk (fs.startOf path) names :=
  if_neg (Nat.not_lt.mpr h)

theorem short_of_follow {fs : FileSystem} {path : String} {names : List String} {p : Place}
    (h : fs.follow path names = .ok p) :
    (showParts (rootOf path) names).utf8ByteSize ≤ maxPathBytes := by
  by_contra hlong
  rw [follow, if_pos (Nat.lt_of_not_le hlong)] at h
  cases h

/-! ### Making directories -/

/-- Nothing has changed but that some of the places that were missing are directories now. -/
structure Grows (fs : FileSystem) (places : List Place) (after : FileSystem) : Prop where
  files : after.files = fs.files
  workingDirectory : after.workingDirectory = fs.workingDirectory
  entries : ∀ q, after.entry q = fs.entry q ∨
    fs.entry q = .missing ∧ after.entry q = .directory ∧ q ∈ places

namespace Grows

variable {fs after later : FileSystem} {places more : List Place} {q : Place}

theorem refl (fs : FileSystem) (places : List Place) : fs.Grows places fs :=
  ⟨rfl, rfl, fun _ => .inl rfl⟩

theorem mono (h : fs.Grows places after) (hsub : places ⊆ more) : fs.Grows more after :=
  ⟨h.files, h.workingDirectory, fun q => (h.entries q).imp_right fun hq =>
    ⟨hq.1, hq.2.1, hsub hq.2.2⟩⟩

theorem directory (h : fs.Grows places after) (hq : fs.entry q = .directory) :
    after.entry q = .directory := by
  rcases h.entries q with heq | ⟨-, hmade, -⟩
  · rw [heq, hq]
  · exact hmade

theorem file_iff (h : fs.Grows places after) {content : ByteArray} :
    after.entry q = .file content ↔ fs.entry q = .file content := by
  rcases h.entries q with heq | ⟨hmissing, hmade, -⟩
  · rw [heq]
  · simp [hmissing, hmade]

theorem trans (h : fs.Grows places after) (h' : after.Grows places later) :
    fs.Grows places later := by
  refine ⟨h'.files.trans h.files, h'.workingDirectory.trans h.workingDirectory, fun q => ?_⟩
  rcases h'.entries q with heq' | ⟨hmissing', hmade', hq'⟩
  · rw [heq']
    exact h.entries q
  · rcases h.entries q with heq | ⟨-, hmade, -⟩
    · exact .inr ⟨heq.symm.trans hmissing', hmade', hq'⟩
    · cases hmade.symm.trans hmissing'

theorem startOf (h : fs.Grows places after) (path : String) :
    after.startOf path = fs.startOf path := by
  rw [FileSystem.startOf, FileSystem.startOf, h.workingDirectory]

end Grows

theorem grows_makeDirectory {fs : FileSystem} {p : Place} (h : fs.entry p = .missing) :
    fs.Grows [p] (fs.makeDirectory p) := by
  refine ⟨rfl, rfl, fun q => ?_⟩
  rw [entry_makeDirectory]
  split_ifs with hq
  · exact .inr ⟨hq ▸ h, rfl, List.mem_singleton.mpr hq⟩
  · exact .inl rfl

section Ensure

variable {fs : FileSystem} {path : String} {names : List String}

/-- All that an attempt to make one directory can come to. -/
theorem ensureDirectory_cases (fs : FileSystem) (path : String) (names : List String) :
    (∃ fault, fs.follow path names = .error fault ∧
      fs.ensureDirectory path names = { files := fs, fault := some fault }) ∨
    ∃ p, fs.follow path names = .ok p ∧
      ((∃ content, fs.entry p = .file content ∧
          fs.ensureDirectory path names = { files := fs, fault := some .isFile }) ∨
        fs.entry p = .directory ∧ fs.ensureDirectory path names = { files := fs } ∨
        fs.entry p = .missing ∧
          fs.ensureDirectory path names = { files := fs.makeDirectory p }) := by
  unfold ensureDirectory
  cases fs.follow path names with
  | error fault => exact .inl ⟨fault, rfl, rfl⟩
  | ok p => cases hentry : fs.entry p <;> simp [hentry]

theorem goal_of_follow {p : Place} (h : fs.follow path names = .ok p) :
    p = goal (fs.startOf path) names := by
  rw [follow_of_short (short_of_follow h)] at h
  exact (walk_eq_ok_iff.mp h).2.2

theorem grows_ensureDirectory (fs : FileSystem) (path : String) (names : List String) :
    fs.Grows (stops (fs.startOf path) names) (fs.ensureDirectory path names).files := by
  rcases ensureDirectory_cases fs path names with ⟨_, -, heq⟩ | ⟨p, hp, ⟨_, -, heq⟩ | ⟨-, heq⟩ |
    ⟨hmissing, heq⟩⟩
  · exact heq ▸ .refl fs _
  · exact heq ▸ .refl fs _
  · exact heq ▸ .refl fs _
  · rw [heq]
    refine (grows_makeDirectory hmissing).mono ?_
    simp [goal_of_follow hp, stops]

/-- A directory that was made, or was there, is reached through directories. -/
theorem directories_of_ensureDirectory (h : (fs.ensureDirectory path names).fault = none) :
    ∀ q ∈ stops (fs.startOf path) names,
      (fs.ensureDirectory path names).files.entry q = .directory := by
  have hgrows := grows_ensureDirectory fs path names
  have hthrough : ∀ p, fs.follow path names = .ok p → ∀ q ∈ through (fs.startOf path) names,
      (fs.ensureDirectory path names).files.entry q = .directory := by
    intro p hp q hq
    rw [follow_of_short (short_of_follow hp)] at hp
    exact hgrows.directory ((walk_eq_ok_iff.mp hp).1 q hq)
  rcases ensureDirectory_cases fs path names with ⟨_, -, heq⟩ | ⟨p, hp, ⟨_, -, heq⟩ |
    ⟨hentry, heq⟩ | ⟨-, heq⟩⟩
  · simp [heq] at h
  · simp [heq] at h
  · refine List.forall_mem_append.mpr ⟨hthrough p hp, List.forall_mem_singleton.mpr ?_⟩
    rw [heq, ← goal_of_follow hp]
    exact hentry
  · refine List.forall_mem_append.mpr ⟨hthrough p hp, List.forall_mem_singleton.mpr ?_⟩
    rw [heq, ← goal_of_follow hp, entry_makeDirectory, if_pos rfl]

theorem ensureDirectories_succ (fs : FileSystem) (path : String) (names : List String) (count : ℕ) :
    fs.ensureDirectories path names (count + 1) =
      if (fs.ensureDirectory path (names.take (count + 1))).fault = some .missing then
        if (fs.ensureDirectories path names count).fault.isSome then
          fs.ensureDirectories path names count
        else
          (fs.ensureDirectories path names count).files.ensureDirectory path
            (names.take (count + 1))
      else fs.ensureDirectory path (names.take (count + 1)) := rfl

theorem grows_ensureDirectories (fs : FileSystem) (path : String) (names : List String)
    (count : ℕ) :
    fs.Grows (stops (fs.startOf path) (names.take count))
      (fs.ensureDirectories path names count).files := by
  induction count with
  | zero => exact .refl fs _
  | succ count ih =>
    have habove := ih.mono (stops_take_subset (fs.startOf path) names count)
    rw [ensureDirectories_succ]
    split_ifs
    · exact habove
    · have hlast := grows_ensureDirectory (fs.ensureDirectories path names count).files path
        (names.take (count + 1))
      rw [habove.startOf] at hlast
      exact habove.trans hlast
    · exact grows_ensureDirectory fs path (names.take (count + 1))

theorem directories_of_ensureDirectories (hstart : fs.entry (fs.startOf path) = .directory)
    {count : ℕ} (h : (fs.ensureDirectories path names count).fault = none) :
    ∀ q ∈ stops (fs.startOf path) (names.take count),
      (fs.ensureDirectories path names count).files.entry q = .directory := by
  cases count with
  | zero => simpa [stops, through, goal, ensureDirectories] using hstart
  | succ count =>
    have habove := grows_ensureDirectories fs path names count
    rw [ensureDirectories_succ] at h ⊢
    split_ifs at h ⊢ with hmissing hfault
    · simp [h] at hfault
    · rw [← habove.startOf path]
      exact directories_of_ensureDirectory h
    · exact directories_of_ensureDirectory h

/-- No name is too long for a directory, and no file stands where a directory is to be. -/
structure IsClear (fs : FileSystem) (here : Place) (names : List String) : Prop where
  short : ∀ name ∈ names, name.utf8ByteSize ≤ maxNameBytes
  noFile : ∀ q ∈ stops here names, ∀ content, fs.entry q ≠ .file content

theorem isClear_of_ensureDirectory {places : List Place} {after : FileSystem}
    (hgrows : fs.Grows places after) (h : (after.ensureDirectory path names).fault = none) :
    fs.IsClear (fs.startOf path) names := by
  have hdirectories := directories_of_ensureDirectory h
  have hlater := hgrows.startOf path ▸ grows_ensureDirectory after path names
  rw [hgrows.startOf path] at hdirectories
  refine ⟨?_, fun q hq content hfile => ?_⟩
  · rcases ensureDirectory_cases after path names with ⟨_, -, heq⟩ | ⟨p, hp, -⟩
    · simp [heq] at h
    · rw [follow_of_short (short_of_follow hp)] at hp
      exact (walk_eq_ok_iff.mp hp).2.1
  · have hstill := hlater.file_iff.mpr (hgrows.file_iff.mpr hfile)
    cases (hdirectories q hq).symm.trans hstill

theorem IsClear.of_take_succ {here : Place} {count : ℕ}
    (h : fs.IsClear here (names.take (count + 1))) : fs.IsClear here (names.take count) :=
  ⟨fun name hname => h.short name (List.take_subset_take_left names (Nat.le_succ count) hname),
    fun q hq => h.noFile q (stops_take_subset here names count hq)⟩

theorem IsClear.of_grows {places : List Place} {after : FileSystem} {here : Place}
    (h : fs.IsClear here names) (hgrows : fs.Grows places after) : after.IsClear here names :=
  ⟨h.short, fun q hq content hfile => h.noFile q hq content (hgrows.file_iff.mp hfile)⟩

section Clear

variable (hclear : fs.IsClear (fs.startOf path) names)
  (hpath : (showParts (rootOf path) names).utf8ByteSize ≤ maxPathBytes)

include hclear hpath

theorem ensureDirectory_of_directories
    (h : ∀ q ∈ through (fs.startOf path) names, fs.entry q = .directory) :
    (fs.ensureDirectory path names).fault = none := by
  have hgoal : fs.follow path names = .ok (goal (fs.startOf path) names) := by
    rw [follow_of_short hpath]
    exact walk_eq_ok_iff.mpr ⟨h, hclear.short, rfl⟩
  have hopen := hclear.noFile (goal (fs.startOf path) names) (by simp [stops])
  rcases ensureDirectory_cases fs path names with ⟨_, hp, -⟩ | ⟨p, hp, ⟨content, hfile, -⟩ |
    ⟨-, heq⟩ | ⟨-, heq⟩⟩
  · cases hgoal.symm.trans hp
  · rw [goal_of_follow hp] at hfile
    exact absurd hfile (hopen content)
  · rw [heq]
  · rw [heq]

/-- Where the way is clear, a directory cannot be made only because those above it are missing. -/
theorem ensureDirectory_of_not_directories
    (h : ¬∀ q ∈ through (fs.startOf path) names, fs.entry q = .directory) :
    (fs.ensureDirectory path names).fault = some .missing := by
  have hthrough : ∀ q ∈ through (fs.startOf path) names, ∀ content, fs.entry q ≠ .file content :=
    fun q hq => hclear.noFile q (List.mem_append_left _ hq)
  rw [ensureDirectory, follow_of_short hpath, walk_eq_missing hthrough hclear.short h]

end Clear

/-- Directories can be made just if the way is clear. -/
theorem ensureDirectories_fault_eq_none_iff (hstart : fs.entry (fs.startOf path) = .directory)
    (hpath : (showParts (rootOf path) names).utf8ByteSize ≤ maxPathBytes) (count : ℕ) :
    (fs.ensureDirectories path names count).fault = none ↔
      fs.IsClear (fs.startOf path) (names.take count) := by
  constructor
  · intro h
    cases count with
    | zero =>
      refine ⟨by simp, fun q hq content hfile => ?_⟩
      have hq : q = fs.startOf path := by simpa [stops, through, goal] using hq
      cases hstart.symm.trans (hq ▸ hfile)
    | succ count =>
      rw [ensureDirectories_succ] at h
      split_ifs at h with hmissing hfault
      · simp [h] at hfault
      · exact isClear_of_ensureDirectory (grows_ensureDirectories fs path names count) h
      · exact isClear_of_ensureDirectory (.refl fs []) h
  · intro hclear
    induction count with
    | zero => rfl
    | succ count ih =>
      have hshort := (utf8ByteSize_showParts_le (rootOf path)
        (names.take_prefix (count + 1))).trans hpath
      rw [ensureDirectories_succ]
      by_cases hall : ∀ q ∈ through (fs.startOf path) (names.take (count + 1)),
          fs.entry q = .directory
      · have hmade := ensureDirectory_of_directories hclear hshort hall
        rw [if_neg (by simp [hmade]), hmade]
      · -- once the directories above are there, nothing else can be in the way
        have habove := ih hclear.of_take_succ
        have hgrows := grows_ensureDirectories fs path names count
        rw [if_pos (ensureDirectory_of_not_directories hclear hshort hall),
          if_neg (by simp [habove])]
        refine ensureDirectory_of_directories ?_ hshort ?_
        · rw [hgrows.startOf path]
          exact hclear.of_grows hgrows
        · rw [hgrows.startOf path]
          intro q hq
          exact directories_of_ensureDirectories hstart habove q
            (through_take_succ_subset _ names count hq)

end Ensure

/-! ### Writing -/

theorem through_eq_stops (here : Place) {names : List String} (h : names ≠ []) :
    through here names = stops here names.dropLast := by
  rw [stops, ← through_concat here names.dropLast (names.getLast h), List.dropLast_append_getLast]

section Write

variable {fs after : FileSystem} {path text : String}

theorem writeText_eq_ok_iff : fs.writeText path text = .ok after ↔
    ∃ p, fs.follow path (pathParts path) = .ok p ∧ fs.entry p ≠ .directory ∧
      after = fs.write p text.toUTF8 := by
  unfold writeText
  cases fs.follow path (pathParts path) with
  | error fault => simp [bind, Except.bind]
  | ok p =>
    cases hentry : fs.entry p <;>
      simp [bind, Except.bind, hentry, pure, Except.pure, throw, throwThe, MonadExceptOf.throw,
        eq_comm]

/-- A file can be written at a path, and the directories that it needs can be made: nothing is too
long, no file is in the way, and the path does not end at a directory, nor where one is to be. -/
structure IsWritable (fs : FileSystem) (path : String) : Prop where
  short : ∀ name ∈ pathParts path, name.utf8ByteSize ≤ maxNameBytes
  shortPath : (showPath path).utf8ByteSize ≤ maxPathBytes
  noFile : ∀ q ∈ through (fs.startOf path) (pathParts path), ∀ content, fs.entry q ≠ .file content
  plain : fs.entry (goal (fs.startOf path) (pathParts path)) ≠ .directory
  apart : goal (fs.startOf path) (pathParts path) ∉ through (fs.startOf path) (pathParts path)

instance : Decidable (fs.IsWritable path) :=
  decidable_of_iff
    ((∀ name ∈ pathParts path, name.utf8ByteSize ≤ maxNameBytes) ∧
      (showPath path).utf8ByteSize ≤ maxPathBytes ∧
      (∀ q ∈ through (fs.startOf path) (pathParts path),
        fs.isDirectory q = true ∨ fs.file? q = none) ∧
      fs.isDirectory (goal (fs.startOf path) (pathParts path)) = false ∧
      goal (fs.startOf path) (pathParts path) ∉ through (fs.startOf path) (pathParts path)) (by
    simp only [← entry_ne_file_iff]
    simp only [← Bool.not_eq_true, ← entry_eq_directory_iff]
    exact ⟨fun ⟨h₁, h₂, h₃, h₄, h₅⟩ => ⟨h₁, h₂, h₃, h₄, h₅⟩,
      fun ⟨h₁, h₂, h₃, h₄, h₅⟩ => ⟨h₁, h₂, h₃, h₄, h₅⟩⟩)

/-- The file at a path holds the content and the directories on its way are there. Nothing else has
changed. -/
structure Written (fs : FileSystem) (path : String) (content : ByteArray) (after : FileSystem) :
    Prop where
  file : after.entry (goal (fs.startOf path) (pathParts path)) = .file content
  directories : ∀ q ∈ through (fs.startOf path) (pathParts path), after.entry q = .directory
  others : ∀ q, q ≠ goal (fs.startOf path) (pathParts path) →
    q ∉ through (fs.startOf path) (pathParts path) → after.entry q = fs.entry q
  workingDirectory : after.workingDirectory = fs.workingDirectory

/-- The directories that a file at the path needs. -/
def ensureParents (fs : FileSystem) (path : String) : Attempt :=
  fs.ensureDirectories path (pathParts path).dropLast (pathParts path).dropLast.length

/-- Also if it is given up, making the directories changes nothing else. -/
theorem grows_ensureParents (fs : FileSystem) (path : String) :
    fs.Grows (through (fs.startOf path) (pathParts path)) (fs.ensureParents path).files := by
  by_cases hnil : pathParts path = []
  · rw [ensureParents, hnil]
    exact .refl fs _
  · have hgrows := grows_ensureDirectories fs path (pathParts path).dropLast
      (pathParts path).dropLast.length
    rwa [List.take_length, ← through_eq_stops _ hnil] at hgrows

variable (hstart : fs.entry (fs.startOf path) = .directory)

include hstart

theorem ne_nil_of_plain (h : fs.entry (goal (fs.startOf path) (pathParts path)) ≠ .directory) :
    pathParts path ≠ [] := by
  intro hnil
  rw [hnil] at h
  exact h hstart

theorem ensureParents_fault_eq_none_iff (hnil : pathParts path ≠ [])
    (hpath : (showPath path).utf8ByteSize ≤ maxPathBytes) :
    (fs.ensureParents path).fault = none ↔
      (∀ name ∈ (pathParts path).dropLast, name.utf8ByteSize ≤ maxNameBytes) ∧
        ∀ q ∈ through (fs.startOf path) (pathParts path),
          ∀ content, fs.entry q ≠ .file content := by
  have hparents := (utf8ByteSize_showParts_le (rootOf path)
    (List.dropLast_prefix (pathParts path))).trans hpath
  rw [ensureParents, ensureDirectories_fault_eq_none_iff hstart hparents, List.take_length,
    through_eq_stops _ hnil]
  exact ⟨fun h => ⟨h.short, h.noFile⟩, fun h => ⟨h.1, h.2⟩⟩

theorem directories_of_ensureParents (hnil : pathParts path ≠ [])
    (h : (fs.ensureParents path).fault = none) :
    ∀ q ∈ through (fs.startOf path) (pathParts path),
      (fs.ensureParents path).files.entry q = .directory := by
  have hdirectories := directories_of_ensureDirectories hstart h
  rwa [List.take_length, ← through_eq_stops _ hnil] at hdirectories

theorem written_of_isWritable (h : fs.IsWritable path) (text : String) :
    (fs.ensureParents path).fault = none ∧
      ∃ after, (fs.ensureParents path).files.writeText path text = .ok after ∧
        fs.Written path text.toUTF8 after := by
  have hnil := ne_nil_of_plain hstart h.plain
  have hmade : (fs.ensureParents path).fault = none :=
    (ensureParents_fault_eq_none_iff hstart hnil h.shortPath).mpr
      ⟨fun name hname => h.short name (List.dropLast_subset _ hname), h.noFile⟩
  have hgrows := grows_ensureParents fs path
  have hdirectories := directories_of_ensureParents hstart hnil hmade
  have hothers : ∀ q ∉ through (fs.startOf path) (pathParts path),
      (fs.ensureParents path).files.entry q = fs.entry q :=
    fun q hq => (hgrows.entries q).resolve_right fun hnew => hq hnew.2.2
  have hplain := (hothers _ h.apart).symm ▸ h.plain
  refine ⟨hmade, _, writeText_eq_ok_iff.mpr ⟨_, ?_, hplain, rfl⟩, ?_⟩
  · rw [follow_of_short h.shortPath, hgrows.startOf]
    exact walk_eq_ok_iff.mpr ⟨hdirectories, h.short, rfl⟩
  · refine ⟨?_, fun q hq => ?_, fun q hne hq => ?_,
      (workingDirectory_write _ _ _).trans hgrows.workingDirectory⟩
    · rw [entry_write hplain, if_pos rfl]
    · have hne : q ≠ goal (fs.startOf path) (pathParts path) := fun heq => h.apart (heq ▸ hq)
      rw [entry_write hplain, if_neg hne, hdirectories q hq]
    · rw [entry_write hplain, if_neg hne, hothers q hq]

theorem isWritable_of_writeText (hmade : (fs.ensureParents path).fault = none)
    (h : (fs.ensureParents path).files.writeText path text = .ok after) : fs.IsWritable path := by
  obtain ⟨p, hp, hplain, -⟩ := writeText_eq_ok_iff.mp h
  have hshortPath := short_of_follow hp
  have hgoal := goal_of_follow hp
  have hgrows := grows_ensureParents fs path
  rw [hgrows.startOf] at hgoal
  rw [follow_of_short hshortPath] at hp
  subst hgoal
  have hnil := ne_nil_of_plain hstart fun hdirectory => hplain (hgrows.directory hdirectory)
  exact
    { short := (walk_eq_ok_iff.mp hp).2.1
      shortPath := hshortPath
      noFile := ((ensureParents_fault_eq_none_iff hstart hnil hshortPath).mp hmade).2
      plain := fun hdirectory => hplain (hgrows.directory hdirectory)
      apart := fun hmem => hplain (directories_of_ensureParents hstart hnil hmade _ hmem) }

end Write

end FileSystem

end SchemaClient
