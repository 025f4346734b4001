import Mathlib
import SchemaClient.Code.Lexeme
import SchemaClient.Proofs.Sdl.Scan

/-! Numbers of a schema are numbers of a module, unless they are whole and too long. -/
namespace SchemaClient.Code

open Sdl (IsWhole IsDigits IsFraction IsExponent)

/-- Characters that end the word or number before them. -/
def delimiters : List Char := [' ', '\n', ',', ':', '(', ')', '[', ']', '\x7d']

variable {x : Char} {digits f e rest : List Char}

theorem of_mem_delimiters {p : Char → Bool} (hx : x ∈ delimiters) (h : delimiters.all p) : p x :=
  List.all_eq_true.mp h x hx

/-- Marks of a point, an exponent, a base or an imaginary number. -/
def numberMarks : List Char := ['.', 'e', 'E', 'j', 'J', 'x', 'X', 'o', 'O', 'b', 'B']

theorem notNumeral_of_mem_delimiters (hx : x ∈ delimiters) :
    x ∉ numberMarks ∧ x ≠ '_' ∧ x.isDigit = false ∧ mayContinueName x = false := by
  have h := of_mem_delimiters (p := fun x => !numberMarks.contains x && x != '_' && !x.isDigit &&
    !mayContinueName x) hx (by decide)
  simpa [and_assoc] using h

theorem not_digit_of_mem_delimiters (hx : x ∈ delimiters) : x ≠ '_' ∧ x.isDigit = false :=
  ⟨(notNumeral_of_mem_delimiters hx).2.1, (notNumeral_of_mem_delimiters hx).2.2.1⟩

theorem digitsFrom_of_digits {cs : List Char} (hdigits : ∀ d ∈ digits, d.isDigit)
    (hcs : ∀ c ∈ cs.head?, c ≠ '_' ∧ c.isDigit = false) :
    digitsFrom Char.isDigit (digits ++ cs) = some cs := by
  have hcons : ∀ c cs, c ≠ '_' → digitsFrom Char.isDigit (c :: cs) =
      if c.isDigit then digitsFrom Char.isDigit cs else some (c :: cs) := by
    intro c cs hc
    cases cs <;> simp [digitsFrom, hc]
  induction digits with
  | nil =>
    cases cs with
    | nil => rfl
    | cons c cs =>
      obtain ⟨hc, hdigit⟩ := hcs c rfl
      rw [List.nil_append, hcons c cs hc, hdigit, if_neg (by simp)]
  | cons d digits ih =>
    have hd := hdigits d (by simp)
    have hne : d ≠ '_' := by
      rintro rfl
      exact absurd hd (by decide)
    rw [List.cons_append, hcons d _ hne, if_pos hd]
    exact ih fun d hd => hdigits d (by simp [hd])

theorem isDigits_of_isWhole (h : IsWhole digits) : IsDigits digits := by
  rcases h with rfl | h
  · exact ⟨by simp, by simp⟩
  · exact h.1

/-! ### Fractions and exponents -/

/-- What can stand behind the digits of a number. -/
theorem head?_exponent (he : IsExponent e) :
    ∀ c ∈ (e ++ x :: rest).head?, c = 'e' ∨ c = 'E' ∨ c = x := by
  rcases he with rfl | ⟨e, sign, digits, rfl, he, -⟩
  · simp
  · rcases he with rfl | rfl <;> simp

theorem head?_fraction (hf : IsFraction f) (he : IsExponent e) :
    ∀ c ∈ (f ++ (e ++ x :: rest)).head?, c = '.' ∨ c = 'e' ∨ c = 'E' ∨ c = x := by
  rcases hf with rfl | ⟨digits, rfl, -⟩
  · intro c hc
    exact .inr (head?_exponent he c hc)
  · simp

theorem endsDigits_exponent (he : IsExponent e) (hx : x ∈ delimiters) :
    ∀ c ∈ (e ++ x :: rest).head?, c ≠ '_' ∧ c.isDigit = false := by
  intro c hc
  rcases head?_exponent he c hc with rfl | rfl | rfl
  · decide
  · decide
  · exact not_digit_of_mem_delimiters hx

theorem endsDigits_fraction (hf : IsFraction f) (he : IsExponent e) (hx : x ∈ delimiters)
    (rest : List Char) :
    ∀ c ∈ (f ++ (e ++ x :: rest)).head?, c ≠ '_' ∧ c.isDigit = false := by
  intro c hc
  rcases head?_fraction hf he c hc with rfl | rfl | rfl | rfl
  · decide
  · decide
  · decide
  · exact not_digit_of_mem_delimiters hx

theorem readExponent_of_isExponent (he : IsExponent e) (hx : x ∈ delimiters) :
    readExponent (e ++ x :: rest) = some (!e.isEmpty, x :: rest) := by
  rcases he with rfl | ⟨e, sign, digits, rfl, he, hsign, hne, hdigits⟩
  · have hmark : (x == 'e' || x == 'E') = false := by
      have hne := (notNumeral_of_mem_delimiters hx).1
      simp_all [numberMarks]
    simp [readExponent, hmark]
  · obtain ⟨d, digits, rfl⟩ := List.exists_cons_of_ne_nil hne
    have hd := hdigits d (by simp)
    have hall : ∀ d ∈ digits, d.isDigit := fun d hd => hdigits d (by simp [hd])
    have hmore : digitsFrom Char.isDigit (digits ++ x :: rest) = some (x :: rest) :=
      digitsFrom_of_digits hall (by simpa using not_digit_of_mem_delimiters hx)
    have hplain : (d == '+' || d == '-') = false := by
      by_contra h
      simp only [Bool.not_eq_false, Bool.or_eq_true, beq_iff_eq] at h
      rcases h with rfl | rfl <;> exact absurd hd (by decide)
    rcases hsign with rfl | rfl | rfl <;> simp [readExponent, he, hplain, hd, hmore]

theorem readNumberTail_of_isFraction (hf : IsFraction f) (he : IsExponent e) (hx : x ∈ delimiters) :
    readNumberTail (f ++ (e ++ x :: rest)) = some ⟨f.isEmpty && e.isEmpty, false, x :: rest⟩ := by
  have hexponent : readExponent (e ++ x :: rest) = _ := readExponent_of_isExponent he hx
  have himaginary : readImaginary (x :: rest) = (false, x :: rest) := by
    have hmark : (x == 'j' || x == 'J') = false := by
      have hne := (notNumeral_of_mem_delimiters hx).1
      simp_all [numberMarks]
    simp [readImaginary, hmark]
  have hend : endNumber (x :: rest) = some (x :: rest) := by
    have hpart := (notNumeral_of_mem_delimiters hx).2.2.2
    simp [endNumber, hpart]
  rcases hf with rfl | ⟨digits, rfl, hne, hdigits⟩
  · -- Without a fraction the text starts with an exponent or with what ends the number.
    cases htext : e ++ x :: rest with
    | nil => simp at htext
    | cons c cs =>
      have hc : c ≠ '.' := by
        rcases head?_exponent he c (by rw [htext]; rfl) with rfl | rfl | rfl
        · decide
        · decide
        · rintro rfl
          exact absurd hx (by decide)
      rw [htext] at hexponent
      simp [readNumberTail, hc, hexponent, himaginary, hend]
  · obtain ⟨d, digits, rfl⟩ := List.exists_cons_of_ne_nil hne
    have hd := hdigits d (by simp)
    have hall : ∀ d ∈ digits, d.isDigit := fun d hd => hdigits d (by simp [hd])
    have hmore : digitsFrom Char.isDigit (digits ++ (e ++ x :: rest)) = some (e ++ x :: rest) :=
      digitsFrom_of_digits hall (endsDigits_exponent he hx)
    simp [readNumberTail, hd, hmore, hexponent, himaginary, hend]

/-! ### Whole numbers -/

theorem readNumber_eq_readDecimal {cs : List Char} (hdigits : IsWhole digits)
    (hcs : ∀ c ∈ cs.head?, c ∉ ['x', 'X', 'o', 'O', 'b', 'B']) :
    readNumber (digits ++ cs) = readDecimal (digits ++ cs) := by
  rcases hdigits with rfl | ⟨⟨hne, -⟩, hzero⟩
  · cases cs with
    | nil => rfl
    | cons b cs =>
      have hb := hcs b rfl
      simp only [List.mem_cons, List.not_mem_nil, or_false, not_or] at hb
      simp [readNumber, hb]
  · obtain ⟨d, digits, rfl⟩ := List.exists_cons_of_ne_nil hne
    have hd : d ≠ '0' := by simpa using hzero
    simp [readNumber, hd]

theorem takeWhile_digits {cs : List Char} (hdigits : ∀ d ∈ digits, d.isDigit)
    (hcs : ∀ c ∈ cs.head?, c ≠ '_' ∧ c.isDigit = false) :
    ((digits ++ cs).takeWhile fun c => c.isDigit || c == '_').filter Char.isDigit = digits := by
  have hstop : (cs.takeWhile fun c => c.isDigit || c == '_') = [] := by
    cases cs with
    | nil => rfl
    | cons c cs =>
      obtain ⟨hc, hdigit⟩ := hcs c rfl
      simp [hc, hdigit]
  rw [List.takeWhile_append_of_pos (fun d hd => by simp [hdigits d hd]), hstop, List.append_nil,
    List.filter_eq_self.mpr hdigits]

/-- A number of a schema is too long only if it is whole. -/
theorem readNumber_of_isWhole (hdigits : IsWhole digits) (hf : IsFraction f) (he : IsExponent e)
    (hx : x ∈ delimiters)
    (hlength : (f.isEmpty && e.isEmpty) = true → digits.length ≤ maxIntegerDigits)
    (rest : List Char) :
    readNumber (digits ++ (f ++ (e ++ x :: rest))) = some (.number false, x :: rest) := by
  have hall := (isDigits_of_isWhole hdigits).2
  have hends := endsDigits_fraction hf he hx rest
  have hbase : ∀ c ∈ (f ++ (e ++ x :: rest)).head?, c ∉ ['x', 'X', 'o', 'O', 'b', 'B'] := by
    intro c hc
    rcases head?_fraction hf he c hc with rfl | rfl | rfl | rfl
    · decide
    · decide
    · decide
    · have hne := (notNumeral_of_mem_delimiters hx).1
      simp_all [numberMarks]
  have htail : readNumberTail (f ++ (e ++ x :: rest)) = _ := readNumberTail_of_isFraction hf he hx
  have hwhole := takeWhile_digits hall hends
  rw [readNumber_eq_readDecimal hdigits hbase]
  obtain ⟨d, ds, rfl⟩ := List.exists_cons_of_ne_nil (isDigits_of_isWhole hdigits).1
  have hd := hall d (by simp)
  have hmore : digitsFrom Char.isDigit (ds ++ (f ++ (e ++ x :: rest))) =
      some (f ++ (e ++ x :: rest)) := digitsFrom_of_digits (fun d hd => hall d (by simp [hd])) hends
  rw [List.cons_append] at hwhole ⊢
  simp only [readDecimal, hd, if_true, hmore, htail, hwhole, Option.bind_eq_bind, Option.bind_some]
  by_cases hlong : (f.isEmpty && e.isEmpty) = true
  · have hguard := hlength hlong
    rcases hdigits with hzero | ⟨-, hzero⟩
    · obtain ⟨rfl, rfl⟩ := List.cons.inj hzero
      simp
    · have hne : (d == '0') = false := by simpa using hzero
      rw [List.head?_cons, hlong, Bool.true_and]
      simp only [guard, hguard, if_true]
      split_ifs <;> simp_all
  · simp [hlong]

end SchemaClient.Code
