/-! Sets of code points, and maps on them, given by evenly spaced runs. -/
namespace SchemaClient.Text

/-- The code points `first`, `first + step`, … up to `last`. -/
structure Span where
  first : Nat
  last : Nat
  step : Nat
deriving Repr, DecidableEq

def Span.contains (s : Span) (n : Nat) : Bool :=
  decide (s.first ≤ n) && decide (n ≤ s.last) && (n - s.first) % s.step == 0

def inSpans (n : Nat) : List Span → Bool
  | [] => false
  | s :: rest => s.contains n || inSpans n rest

/-- Moves each code point of a span by the same distance. -/
structure Shift where
  span : Span
  offset : Int
deriving Repr, DecidableEq

/-- The image of `n` under the first shift whose span holds it. -/
def shift? (n : Nat) : List Shift → Option Nat
  | [] => none
  | s :: rest => if s.span.contains n then some (Int.toNat (n + s.offset)) else shift? n rest

/-- The code points listed for `n`. -/
def expansion? (n : Nat) : List (Nat × List Nat) → Option (List Nat)
  | [] => none
  | (m, image) :: rest => if m == n then some image else expansion? n rest

end SchemaClient.Text
