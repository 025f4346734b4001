/-! Texts as lists of characters: white space, lines, parts of a text and sets of texts. -/
namespace SchemaClient.Text

/-! ### White space -/

/-- White space of any script, with the four separator control characters. -/
def isBlank (c : Char) : Bool :=
  let n := c.toNat
  (9 ≤ n && n ≤ 13) || (28 ≤ n && n ≤ 32) || n == 0x85 || n == 0xA0 || n == 0x1680 ||
    (0x2000 ≤ n && n ≤ 0x200A) || n == 0x2028 || n == 0x2029 || n == 0x202F || n == 0x205F ||
    n == 0x3000

/-- Removes from the end of a list all elements for which `p` holds. -/
def dropEndWhile {α : Type} (p : α → Bool) : List α → List α
  | [] => []
  | a :: rest =>
    match dropEndWhile p rest with
    | [] => if p a then [] else [a]
    | b :: kept => a :: b :: kept

def trim (cs : List Char) : List Char :=
  dropEndWhile isBlank (cs.dropWhile isBlank)

/-! ### Lines -/

/-- Every character that ends a line in the wide sense, separators and controls included. -/
def isLineEnd (c : Char) : Bool :=
  let n := c.toNat
  (10 ≤ n && n ≤ 13) || (28 ≤ n && n ≤ 30) || n == 0x85 || n == 0x2028 || n == 0x2029

/-- The lines of a text in the wide sense. A carriage return and the line feed after it end one
line, and an ending at the end of the text opens no further line. `line` is read back to front. -/
def linesFrom (line : List Char) : List Char → List (List Char)
  | [] => if line.isEmpty then [] else [line.reverse]
  | '\r' :: '\n' :: rest => line.reverse :: linesFrom [] rest
  | c :: rest =>
    if isLineEnd c then line.reverse :: linesFrom [] rest else linesFrom (c :: line) rest

def lines (cs : List Char) : List (List Char) :=
  linesFrom [] cs

/-- The text between line feeds, carriage returns and pairs of them. There is always a last line,
which may be empty. -/
def rowsFrom (row : List Char) : List Char → List (List Char)
  | [] => [row.reverse]
  | '\r' :: '\n' :: rest => row.reverse :: rowsFrom [] rest
  | c :: rest =>
    if c == '\n' || c == '\r' then row.reverse :: rowsFrom [] rest else rowsFrom (c :: row) rest

def rows (cs : List Char) : List (List Char) :=
  rowsFrom [] cs

/-- Writes each carriage return, with the line feed after it if there is one, as a line feed. -/
def unifyNewlines : List Char → List Char
  | [] => []
  | '\r' :: '\n' :: rest => '\n' :: unifyNewlines rest
  | c :: rest => (if c == '\r' then '\n' else c) :: unifyNewlines rest

/-! ### Parts of a text -/

/-- Whether a text starts with `pattern`. -/
def startsWith : List Char → List Char → Bool
  | [], _ => true
  | _ :: _, [] => false
  | p :: ps, c :: cs => p == c && startsWith ps cs

/-- Whether a text ends with `pattern`. -/
def endsWith (pattern cs : List Char) : Bool :=
  startsWith pattern.reverse cs.reverse

/-- Occurrences of a nonempty `pattern` that do not overlap, from the left. The first `skip`
characters belong to an occurrence already counted. -/
def countFrom (pattern : List Char) : Nat → List Char → Nat
  | _, [] => 0
  | skip + 1, _ :: cs => countFrom pattern skip cs
  | 0, c :: cs =>
    if startsWith pattern (c :: cs) then countFrom pattern (pattern.length - 1) cs + 1
    else countFrom pattern 0 cs

/-- How often a nonempty `pattern` occurs in `s`, without overlap. -/
def occurrences (pattern s : String) : Nat :=
  countFrom pattern.toList 0 s.toList

/-- The texts between the occurrences of `mark`. There is always at least one. -/
def splitAt (mark : Char) : List Char → List (List Char)
  | [] => [[]]
  | c :: cs =>
    if c == mark then [] :: splitAt mark cs
    else
      match splitAt mark cs with
      | [] => [[c]]
      | piece :: pieces => (c :: piece) :: pieces

/-- The texts one after another, with `separator` between each two. -/
def join (separator : String) : List String → String
  | [] => ""
  | [s] => s
  | s :: rest => s ++ separator ++ join separator rest

/-! ### Sets of texts -/

/-- Puts a text into its place, unless it is there. -/
def insertSorted (s : String) : List String → List String
  | [] => [s]
  | t :: rest =>
    if s < t then s :: t :: rest
    else if s == t then t :: rest
    else t :: insertSorted s rest

/-- The texts in ascending order, each once. -/
def sortedSet (texts : List String) : List String :=
  texts.foldr insertSorted []

end SchemaClient.Text
