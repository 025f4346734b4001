import Mathlib
import SchemaClient.Proofs.Traced
import SchemaClient.Sdl.Scan

/-! What the scan of a schema text yields: the spelling of its names and numbers. -/
namespace SchemaClient.Sdl

/-! ### Spellings -/

/-- A name: ASCII letters, digits and underscores, and no digit in front. -/
def isName : List Char → Bool
  | [] => false
  | c :: rest => isNameStart c && rest.all isNamePart

def IsDigits (cs : List Char) : Prop :=
  cs ≠ [] ∧ ∀ c ∈ cs, c.isDigit

/-- The digits before the point: a zero stands alone. -/
def IsWhole (cs : List Char) : Prop :=
  cs = ['0'] ∨ IsDigits cs ∧ cs.head? ≠ some '0'

def IsFraction (cs : List Char) : Prop :=
  cs = [] ∨ ∃ digits, cs = '.' :: digits ∧ IsDigits digits

def IsExponent (cs : List Char) : Prop :=
  cs = [] ∨ ∃ e sign digits, cs = e :: sign ++ digits ∧ (e = 'e' ∨ e = 'E') ∧
    (sign = [] ∨ sign = ['+'] ∨ sign = ['-']) ∧ IsDigits digits

/-- The spelling of a number, which is whole if it has neither a fraction nor an exponent. -/
structure IsNumber (whole : Bool) (spelling : List Char) : Prop where
  parts : ∃ sign digits fraction exponent, spelling = sign ++ digits ++ fraction ++ exponent ∧
    (sign = [] ∨ sign = ['-']) ∧ IsWhole digits ∧ IsFraction fraction ∧ IsExponent exponent ∧
    whole = (fraction.isEmpty && exponent.isEmpty)

def Token.Valid : Token → Prop
  | .name text => isName text.toList
  | .int text => IsNumber true text.toList
  | .float text => IsNumber false text.toList
  | .symbol _ | .string _ | .block _ | .endOfText => True

/-! ### Numbers -/

variable {offset : Nat} {cs : List Char} {read : List Char × List Char}

theorem isDigits_of_readDigits (h : readDigits offset cs = .ok read) : IsDigits read.1 := by
  unfold readDigits at h
  split_ifs at h with hhead
  obtain rfl := Except.ok.inj h
  cases cs with
  | nil => simp at hhead
  | cons c rest =>
    have hc : c.isDigit := by simpa using hhead
    refine ⟨by simp [hc], fun d hd => ?_⟩
    exact List.mem_takeWhile_imp hd

theorem readDigits_head (h : readDigits offset cs = .ok read) : read.1.head? = cs.head? := by
  unfold readDigits at h
  split_ifs at h with hhead
  obtain rfl := Except.ok.inj h
  cases cs with
  | nil => rfl
  | cons c rest =>
    have hc : c.isDigit := by simpa using hhead
    simp [hc]

theorem isWhole_of_readWhole (h : readWhole offset cs = .ok read) : IsWhole read.1 := by
  unfold readWhole at h
  split at h
  · split_ifs at h with hhead
    obtain rfl := Except.ok.inj h
    exact .inl rfl
  · rename_i hzero
    refine .inr ⟨isDigits_of_readDigits h, ?_⟩
    rw [readDigits_head h]
    cases cs with
    | nil => simp
    | cons c rest =>
      rintro heq
      exact hzero rest (by simpa using heq)

theorem isFraction_of_readFraction (h : readFraction offset cs = .ok read) :
    IsFraction read.1 := by
  unfold readFraction at h
  split at h
  · obtain ⟨digits, hdigits, hread⟩ := bind_eq_ok_iff.mp h
    obtain rfl := Except.ok.inj hread
    exact .inr ⟨_, rfl, isDigits_of_readDigits hdigits⟩
  · obtain rfl := Except.ok.inj h
    exact .inl rfl

theorem isExponent_of_readExponent (h : readExponent offset cs = .ok read) :
    IsExponent read.1 := by
  unfold readExponent at h
  split at h
  · obtain rfl := Except.ok.inj h
    exact .inl rfl
  · rename_i e rest
    split_ifs at h with he
    · obtain ⟨digits, hdigits, hread⟩ := bind_eq_ok_iff.mp h
      obtain rfl := Except.ok.inj hread
      refine .inr ⟨e, _, _, rfl, by simpa using he, ?_, isDigits_of_readDigits hdigits⟩
      cases rest with
      | nil => simp
      | cons c rest => by_cases hp : c = '+' <;> by_cases hm : c = '-' <;> simp_all
    · obtain rfl := Except.ok.inj h
      exact .inl rfl

theorem valid_of_readNumber {reading : Reading} (h : readNumber offset cs = .ok reading) :
    reading.token.Valid := by
  unfold readNumber at h
  split at h
  rename_i sign rest heq
  have hsign : sign = [] ∨ sign = ['-'] := by
    split at heq
    · exact .inr (Prod.ext_iff.mp heq).1.symm
    · exact .inl (Prod.ext_iff.mp heq).1.symm
  obtain ⟨⟨whole, _⟩, hwhole, h⟩ := bind_eq_ok_iff.mp h
  obtain ⟨⟨fraction, _⟩, hfraction, h⟩ := bind_eq_ok_iff.mp h
  obtain ⟨⟨exponent, behind⟩, hexponent, h⟩ := bind_eq_ok_iff.mp h
  have hnumber : IsNumber (fraction.isEmpty && exponent.isEmpty)
      (sign ++ whole ++ fraction ++ exponent) :=
    ⟨sign, whole, fraction, exponent, rfl, hsign, isWhole_of_readWhole hwhole,
      isFraction_of_readFraction hfraction, isExponent_of_readExponent hexponent, rfl⟩
  dsimp only at h
  split_ifs at h with hbehind hint hint
  · cases h
  · cases h
  · obtain rfl := Except.ok.inj h
    rw [hint] at hnumber
    simpa only [Token.Valid, String.toList_ofList] using hnumber
  · obtain rfl := Except.ok.inj h
    rw [Bool.not_eq_true] at hint
    rw [hint] at hnumber
    simpa only [Token.Valid, String.toList_ofList] using hnumber

/-! ### Tokens -/

theorem isName_cons {c : Char} (hc : isNameStart c) (rest : List Char) :
    isName (c :: rest.takeWhile isNamePart) := by
  simp only [isName, hc, Bool.true_and, List.all_eq_true]
  exact fun d hd => List.mem_takeWhile_imp hd

theorem valid_of_readToken {reading : Reading} (h : readToken offset cs = .ok reading) :
    reading.token.Valid := by
  unfold readToken at h
  split at h
  · obtain rfl := Except.ok.inj h
    trivial
  · obtain ⟨_, _, h⟩ := bind_eq_ok_iff.mp h
    obtain rfl := Except.ok.inj h
    trivial
  · obtain ⟨_, _, h⟩ := bind_eq_ok_iff.mp h
    obtain rfl := Except.ok.inj h
    trivial
  · obtain rfl := Except.ok.inj h
    trivial
  · rename_i c rest _ _ _
    split at h
    · obtain rfl := Except.ok.inj h
      trivial
    · split_ifs at h with hdigit hstart
      · exact valid_of_readNumber h
      · obtain rfl := Except.ok.inj h
        simpa [Token.Valid] using isName_cons hstart rest

theorem valid_of_scanFrom (fuel offset : Nat) (cs : List Char) :
    ∀ l ∈ (scanFrom fuel offset cs).lexemes, l.token.Valid := by
  induction fuel generalizing offset cs with
  | zero => simp [scanFrom]
  | succ fuel ih =>
    unfold scanFrom
    split
    · simp [Token.Valid]
    · split_ifs
      · exact ih _ _
      · exact ih _ _
      · split
        · simp
        · rename_i reading hreading
          exact List.forall_mem_cons.mpr ⟨valid_of_readToken hreading, ih _ _⟩

theorem valid_of_scan (s : String) : ∀ l ∈ (scan s).lexemes, l.token.Valid :=
  valid_of_scanFrom _ _ _

end SchemaClient.Sdl
