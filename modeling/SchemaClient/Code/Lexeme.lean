import SchemaClient.Code.Interpolation
import SchemaClient.Text.Literal
import SchemaClient.Text.Character
import SchemaClient.Text.Basic

/-! Lexemes of module text. -/
namespace SchemaClient.Code

inductive Lexeme where
  /-- An identifier or a keyword. -/
  | word (text : String)
  | number (imaginary : Bool)
  /-- A string literal, of characters or of bytes. -/
  | text (bytes : Bool)
  /-- Opens an expression within a string literal, which a newline ends. -/
  | hole
  /-- An operator or a delimiter. -/
  | mark (text : String)
  | newline
  | indent
  | dedent
deriving DecidableEq, Repr

/-! ### Numbers -/

/-- What follows digits of one kind with single underscores between them; the text starts behind a
digit. -/
def digitsFrom (isDigit : Char → Bool) : List Char → Option (List Char)
  | [] => some []
  | '_' :: c :: rest => if isDigit c then digitsFrom isDigit rest else none
  | c :: rest =>
    if isDigit c then digitsFrom isDigit rest
    else if c == '_' then none
    else some (c :: rest)

def isHexDigit (c : Char) : Bool :=
  (Text.hexValue? c).isSome

/-- A character that may continue an identifier, if it belongs to a script at all. -/
def mayContinueName (c : Char) : Bool :=
  c.isAlphanum || c == '_' || decide (128 ≤ c.toNat)

def mayStartName (c : Char) : Bool :=
  c.isAlpha || c == '_' || decide (128 ≤ c.toNat)

/-- Words that may follow a number without a space. -/
def numberFollowers : List (List Char) :=
  ["and", "else", "for", "if", "in", "is", "or", "not"].map String.toList

/-- Nothing that continues a name may follow a number, apart from some operators. -/
def endNumber (cs : List Char) : Option (List Char) :=
  match cs with
  | [] => some []
  | c :: _ =>
    if mayContinueName c && !numberFollowers.any fun w => Text.startsWith w cs then none
    else some cs

/-- The longest decimal integer that can be read. -/
def maxIntegerDigits : Nat := 4300

/-- A number in another base, behind its two-character mark. -/
def readBased (isDigit : Char → Bool) : List Char → Option (Lexeme × List Char)
  | '_' :: c :: rest => if isDigit c then finish rest else none
  | c :: rest => if isDigit c then finish rest else none
  | [] => none
where
  finish (cs : List Char) : Option (Lexeme × List Char) := do
    return (.number false, ← endNumber (← digitsFrom isDigit cs))

/-- An exponent may follow the digits of a number. The flag says that one did. -/
def readExponent (cs : List Char) : Option (Bool × List Char) :=
  match cs with
  | e :: rest =>
    if e == 'e' || e == 'E' then
      let sign := (rest.take 1).filter fun c => c == '+' || c == '-'
      match rest.drop sign.length with
      | d :: more =>
        if d.isDigit then (digitsFrom Char.isDigit more).map fun rest => (true, rest)
        else some (false, cs)
      | [] => some (false, cs)
    else some (false, cs)
  | [] => some (false, [])

def readImaginary : List Char → Bool × List Char
  | c :: rest => if c == 'j' || c == 'J' then (true, rest) else (false, c :: rest)
  | [] => (false, [])

structure NumberTail where
  isWhole : Bool
  isImaginary : Bool
  rest : List Char

/-- The fraction, exponent and imaginary mark of a number. -/
def readNumberTail (cs : List Char) : Option NumberTail := do
  let (point, cs) ← match cs with
    | '.' :: d :: rest =>
      if d.isDigit then (digitsFrom Char.isDigit rest).map fun rest => (true, rest)
      else some (true, d :: rest)
    | ['.'] => some (true, [])
    | cs => some (false, cs)
  let (exponent, cs) ← readExponent cs
  let (imaginary, cs) := readImaginary cs
  return ⟨!(point || exponent || imaginary), imaginary, ← endNumber cs⟩

/-- A decimal number. A whole number other than zero is not too long, and starts with a zero only
right before `else`, whose first letter could start an exponent. -/
def readDecimal (cs : List Char) : Option (Lexeme × List Char) := do
  let rest ← match cs with
    | [] => none
    | c :: more => if c.isDigit then digitsFrom Char.isDigit more else some cs
  let digits := (cs.takeWhile fun c => c.isDigit || c == '_').filter Char.isDigit
  let tail ← readNumberTail rest
  if tail.isWhole && digits.any (· != '0') then
    if digits.head? == some '0' then guard (tail.rest.head? == some 'e')
    else guard (digits.length ≤ maxIntegerDigits)
  return (.number tail.isImaginary, tail.rest)

/-- Reads a number, which starts with a digit or with a point and a digit. -/
def readNumber (cs : List Char) : Option (Lexeme × List Char) :=
  match cs with
  | '0' :: b :: rest =>
    if b == 'x' || b == 'X' then readBased isHexDigit rest
    else if b == 'o' || b == 'O' then readBased (fun c => c.isDigit && c.toNat < 56) rest
    else if b == 'b' || b == 'B' then readBased (fun c => c == '0' || c == '1') rest
    else readDecimal cs
  | _ => readDecimal cs

/-! ### String literals -/

/-- The content of a string literal, back to front in `content`, and the text behind it. A literal
with one quote at each end stays on its line unless the newline is escaped. -/
def readQuoted (mark : Char) (triple : Bool) (content : List Char) :
    List Char → Option (List Char × List Char)
  | [] => none
  | '\\' :: c :: rest => readQuoted mark triple (c :: '\\' :: content) rest
  | c :: rest =>
    if c == mark then
      if triple then
        match rest with
        | d :: e :: more =>
          if d == mark && e == mark then some (content.reverse, more)
          else readQuoted mark triple (c :: content) rest
        | _ => none
      else some (content.reverse, rest)
    else if c == '\n' && !triple then none
    else readQuoted mark triple (c :: content) rest

/-- The content of the string literal at the front of a text, and the text behind it. Three equal
quotes open a literal that three close. -/
def readContent : List Char → Option (List Char × List Char)
  | a :: b :: c :: rest =>
    if a == b && b == c then readQuoted a true [] rest else readQuoted a false [] (b :: c :: rest)
  | a :: rest => readQuoted a false [] rest
  | [] => none

def hexRun (count : Nat) (cs : List Char) : Option Nat :=
  let digits := cs.take count
  if digits.length < count then none else Text.hexNumber? digits

/-- The code points of characters by their names. -/
abbrev CharacterNames := List Char → Option Nat

/-- The text starts with the name of a character in braces. -/
def startsWithName (names : CharacterNames) (cs : List Char) : Bool :=
  match cs with
  | '{' :: rest =>
    let name := rest.takeWhile (· != '}')
    name.length < rest.length && !name.isEmpty && (names name).isSome
  | _ => false

/-- Escapes with a fixed number of digits have all of them, and escapes by name name a character. -/
def escapesHold (names : CharacterNames) (bytes : Bool) : List Char → Bool
  | [] => true
  | '\\' :: c :: rest =>
    (if c == 'x' then (hexRun 2 rest).isSome
      else if bytes then true
      else if c == 'u' then (hexRun 4 rest).isSome
      else if c == 'U' then (hexRun 8 rest).any fun n => n ≤ 0x10FFFF
      else if c == 'N' then startsWithName names rest
      else true) && escapesHold names bytes rest
  | _ :: rest => escapesHold names bytes rest

/-- Reads a string literal behind the letters before it. Each expression within it is a line of its
own. -/
def readText (names : CharacterNames) (readLine : List Char → Option (List Lexeme))
    (letters : List Char) (cs : List Char) : Option (List Lexeme × List Char) := do
  let bytes := letters.contains 'b'
  let raw := letters.contains 'r'
  let (content, rest) ← readContent cs
  guard (raw || escapesHold names bytes content)
  guard (!bytes || content.all fun c => c.toNat < 128)
  let holes ← if letters.contains 'f' then holes? raw content else some []
  let lines ← holes.mapM fun hole => readLine ('(' :: hole ++ [')'])
  return (.text bytes :: lines.flatMap (.hole :: ·), rest)

def textLetters : List (List Char) :=
  ["", "r", "b", "u", "f", "br", "rb", "fr", "rf"].map String.toList

/-! ### Operators and delimiters -/

def longMarks : List String := [
  "**=", "//=", ">>=", "<<=", "...", "!=", "->", ":=", "==", "<=", ">=", "+=", "-=", "*=", "/=",
  "%=", "&=", "|=", "^=", "@=", "**", "//", "<<", ">>"]

def shortMarks : List Char := "+-*/%&|^~<>()[]\x7b\x7d,:.;@=".toList

def readMark (cs : List Char) : Option (String × List Char) :=
  match longMarks.find? fun m => Text.startsWith m.toList cs with
  | some m => some (m, cs.drop m.length)
  | none =>
    match cs with
    | c :: rest => if shortMarks.contains c then some (.ofList [c], rest) else none
    | [] => none

/-- The bracket that closes another. -/
def closerOf? (s : String) : Option String :=
  match s with
  | "(" => some ")"
  | "[" => some "]"
  | "\x7b" => some "\x7d"
  | _ => none

def isCloser (s : String) : Bool :=
  s == ")" || s == "]" || s == "\x7d"

/-! ### Lines and indentation -/

/-- A width of indentation with tabs to every eighth column, and with tabs as single columns. -/
structure Indent where
  wide : Nat
  narrow : Nat
deriving DecidableEq, Repr

/-- Reads the indentation of a line. A backslash continues it on the next line, but from then on the
width before the first one that stands behind blanks, `fixed`, is what counts. `none` if a backslash
is not followed by another line. -/
def readIndent (fixed : Nat) (width : Indent) : List Char → Option (Indent × List Char)
  | [] => some (settle, [])
  | '\\' :: '\n' :: rest =>
    if rest.isEmpty then none else readIndent (if fixed = 0 then width.wide else fixed) width rest
  | c :: rest =>
    if c == ' ' then readIndent fixed ⟨width.wide + 1, width.narrow + 1⟩ rest
    else if c == '\t' then readIndent fixed ⟨(width.wide / 8 + 1) * 8, width.narrow + 1⟩ rest
    else if c.toNat == 12 then readIndent fixed ⟨0, 0⟩ rest
    else if c == '\\' then none
    else some (settle, c :: rest)
where
  settle : Indent := if fixed = 0 then width else ⟨fixed, fixed⟩

/-- The brackets that are still to be closed and the indentations that are in force, innermost
first. -/
structure State where
  closers : List String
  indents : List Indent
  lineStart : Bool

def maxBrackets : Nat := 200

def maxIndents : Nat := 100

/-- Leaves the indentations that are wider than the given one. -/
def leaveIndents (new : Indent) : List Indent → Option (Nat × List Indent)
  | [] => if new = ⟨0, 0⟩ then some (0, []) else none
  | i :: rest =>
    if new.wide < i.wide then (leaveIndents new rest).map fun r => (r.1 + 1, r.2)
    else if new = i then some (0, i :: rest)
    else none

/-- The lexemes that a change of indentation makes. -/
def changeIndent (new : Indent) (indents : List Indent) : Option (List Lexeme × List Indent) :=
  let top := indents.head?.getD ⟨0, 0⟩
  if top.wide < new.wide then
    if top.narrow < new.narrow && indents.length + 1 < maxIndents then
      some ([.indent], new :: indents)
    else none
  else (leaveIndents new indents).map fun r => (List.replicate r.1 .dedent, r.2)

/-- What follows a backslash at the end of a line. The text does not end there. -/
def continueLine : List Char → Option (List Char)
  | '\n' :: c :: rest => some (c :: rest)
  | _ => none

/-- One step at the start of a line: blank lines and comments have no indentation. -/
def startLine (s : State) (cs : List Char) : Option (List Lexeme × State × List Char) := do
  let (width, rest) ← readIndent 0 ⟨0, 0⟩ cs
  match rest with
  | [] => return ([], s, [])
  | c :: more =>
    if c == '\n' then return ([], s, more)
    else if c == '#' then return ([], s, (rest.dropWhile (· != '\n')).drop 1)
    else
      let (made, indents) ← changeIndent width s.indents
      return (made, { s with indents, lineStart := false }, rest)

/-- Brackets have to match. -/
def bracket (s : State) (m : String) : Option State :=
  match closerOf? m with
  | some closer =>
    if s.closers.length < maxBrackets then some { s with closers := closer :: s.closers } else none
  | none =>
    if isCloser m then
      match s.closers with
      | closer :: rest => if closer == m then some { s with closers := rest } else none
      | [] => none
    else some s

/-- A name, or a string literal with letters before it. -/
def readWord (names : CharacterNames) (readLine : List Char → Option (List Lexeme))
    (cs : List Char) : Option (List Lexeme × List Char) :=
  let run := cs.takeWhile mayContinueName
  let rest := cs.drop run.length
  if rest.head?.any isQuote && textLetters.contains (run.map Char.toLower) then
    readText names readLine (run.map Char.toLower) rest
  else if Text.isIdentifier run then some ([.word (.ofList run)], rest)
  else none

/-- One step inside a line. -/
def stepInLine (names : CharacterNames) (readLine : List Char → Option (List Lexeme)) (s : State)
    (cs : List Char) : Option (List Lexeme × State × List Char) :=
  match cs with
  | [] => some ([], s, [])
  | c :: rest =>
    if c == ' ' || c == '\t' || c.toNat == 12 then some ([], s, rest)
    else if c == '#' then some ([], s, rest.dropWhile (· != '\n'))
    else if c == '\n' then
      if s.closers.isEmpty then some ([.newline], { s with lineStart := true }, rest)
      else some ([], s, rest)
    else if c == '\\' then (continueLine rest).map fun next => ([], s, next)
    else if c.isDigit || (c == '.' && rest.head?.any Char.isDigit) then
      (readNumber cs).map fun r => ([r.1], s, r.2)
    else if isQuote c then (readText names readLine [] cs).map fun r => (r.1, s, r.2)
    else if mayStartName c then (readWord names readLine cs).map fun r => (r.1, s, r.2)
    else do
      let (m, rest) ← readMark cs
      return ([.mark m], ← bracket s m, rest)

/-- The end of the text ends its last line and all indentations. -/
def finish (s : State) : Option (List Lexeme) :=
  if !s.closers.isEmpty then none
  else
    let lineEnd := if s.lineStart then [] else [Lexeme.newline]
    some (lineEnd ++ List.replicate s.indents.length .dedent)

def State.start : State := ⟨[], [], true⟩

/-- A character takes two steps at most. What is made so far is kept back to front. -/
def lexemesFrom (names : CharacterNames) :
    Nat → State → List Lexeme → List Char → Option (List Lexeme)
  | 0, _, _, _ => none
  | fuel + 1, s, made, cs =>
    if cs.isEmpty then (finish s).map fun last => made.reverse ++ last
    else
      let readLine := lexemesFrom names fuel .start []
      match if s.lineStart then startLine s cs else stepInLine names readLine s cs with
      | none => none
      | some (new, s, rest) => lexemesFrom names fuel s (new.reverse ++ made) rest

/-- The lexemes of a text; `none` if a part of it is no lexeme. A text whose last newline has two
characters has an empty line behind it. -/
def lexemes? (names : CharacterNames) (cs : List Char) : Option (List Lexeme) :=
  let cs := Text.unifyNewlines cs ++ if ['\r', '\n'].isSuffixOf cs then ['\n'] else []
  lexemesFrom names (2 * cs.length + 2) .start [] cs

end SchemaClient.Code
