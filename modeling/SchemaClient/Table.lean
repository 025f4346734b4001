/-! Tables from keys to values, in order of first insertion. -/
namespace SchemaClient

abbrev Table (κ α : Type) := List (κ × α)

namespace Table

variable {κ α : Type} [DecidableEq κ]

def get? (key : κ) : Table κ α → Option α
  | [] => none
  | (k, a) :: rest => if k == key then some a else get? key rest

/-- Replaces the value of a key in its place, or adds it at the end. -/
def put (key : κ) (value : α) : Table κ α → Table κ α
  | [] => [(key, value)]
  | (k, a) :: rest => if k == key then (k, value) :: rest else (k, a) :: put key value rest

/-- Looking up a key sees the last value put there, and nothing that was put elsewhere. -/
@[simp] theorem get?_put (t : Table κ α) (key : κ) (value : α) (k : κ) :
    (t.put key value).get? k = if key = k then some value else t.get? k := by
  induction t with
  | nil => by_cases h : key = k <;> simp [put, get?, h]
  | cons entry rest ih =>
    by_cases h : entry.1 = key
    · by_cases hk : key = k <;> simp [put, get?, h, hk]
    · by_cases hk : entry.1 = k
      · have hne : k ≠ key := fun e => h (hk.trans e)
        simp [put, get?, hk, hne, hne.symm]
      · simp [put, get?, h, hk, ih]

/-- A repeated key keeps its first place and its last value. -/
def ofPairs (pairs : List (κ × α)) : Table κ α :=
  pairs.foldl (fun t p => t.put p.1 p.2) []

end Table

end SchemaClient
