import SchemaClient.Text.Basic
import SchemaClient.Text.Character

/-! Texts between quotes: string literals, docstrings and the texts that a message echoes. -/
namespace SchemaClient.Text

/-! ### Hexadecimal digits -/

def hexDigit (n : Nat) : Char :=
  if n < 10 then Char.ofNat (48 + n) else Char.ofNat (87 + n)

/-- The low `width` hexadecimal digits of `n`, in lower case, most significant first. -/
def hex : Nat → Nat → List Char
  | 0, _ => []
  | width + 1, n => hex width (n / 16) ++ [hexDigit (n % 16)]

def hexValue? (c : Char) : Option Nat :=
  let n := c.toNat
  if 48 ≤ n && n ≤ 57 then some (n - 48)
  else if 97 ≤ n && n ≤ 102 then some (n - 87)
  else if 65 ≤ n && n ≤ 70 then some (n - 55)
  else none

/-- The number that a list of hexadecimal digits writes. -/
def hexNumber? (cs : List Char) : Option Nat :=
  cs.foldl (fun acc c => do return 16 * (← acc) + (← hexValue? c)) (some 0)

/-- Surrogates have no character of their own. -/
def isScalarValue (n : Nat) : Bool :=
  n < 0xD800 || (0xE000 ≤ n && n ≤ 0x10FFFF)

/-- The code point that a surrogate pair stands for. -/
def joinSurrogates (high low : Nat) : Nat :=
  0x10000 + (high - 0xD800) * 0x400 + (low - 0xDC00)

/-! ### String literals -/

/-- An escape of one 16-bit unit. -/
def unitEscape (n : Nat) : List Char :=
  '\\' :: 'u' :: hex 4 n

/-- How a character stands inside a string literal. A character beyond 16 bits is written as a
surrogate pair. -/
def quotedChar (c : Char) : List Char :=
  let n := c.toNat
  if c == '"' then ['\\', '"']
  else if c == '\\' then ['\\', '\\']
  else if c == '\n' then ['\\', 'n']
  else if c == '\r' then ['\\', 'r']
  else if c == '\t' then ['\\', 't']
  else if n == 8 then ['\\', 'b']
  else if n == 12 then ['\\', 'f']
  else if 32 ≤ n && n < 127 then [c]
  else if n < 0x10000 then unitEscape n
  else unitEscape (0xD800 + (n - 0x10000) / 0x400) ++ unitEscape (0xDC00 + (n - 0x10000) % 0x400)

def quote (cs : List Char) : List Char :=
  '"' :: cs.flatMap quotedChar ++ ['"']

/-- The string literal that denotes `s`. -/
def stringLiteral (s : String) : String :=
  .ofList (quote s.toList)

/-! ### Docstrings -/

/-- Doubles each backslash and escapes each run of three double quotes, from the left. -/
def escapeDocstring : List Char → List Char
  | [] => []
  | '\\' :: rest => '\\' :: '\\' :: escapeDocstring rest
  | '"' :: '"' :: '"' :: rest => '\\' :: '"' :: '\\' :: '"' :: '\\' :: '"' :: escapeDocstring rest
  | c :: rest => c :: escapeDocstring rest

/-- A blank sets a quote at the end of a text apart from quotes behind it. -/
def padQuote (cs : List Char) : List Char :=
  if cs.getLast? = some '"' then cs ++ [' '] else cs

/-- The text of a docstring, without white space at its ends. This takes away the blank behind a
final quote too. -/
def docstring (s : String) : String :=
  .ofList (trim (padQuote (escapeDocstring s.toList)))

/-! ### Echoes -/

private def apostrophe : Char := Char.ofNat 0x27

/-- How a character stands between two `mark`s. -/
def echoedChar (mark c : Char) : List Char :=
  let n := c.toNat
  if c == mark || c == '\\' then ['\\', c]
  else if c == '\n' then ['\\', 'n']
  else if c == '\r' then ['\\', 'r']
  else if c == '\t' then ['\\', 't']
  else if isPrintable c then [c]
  else if n < 0x100 then '\\' :: 'x' :: hex 2 n
  else if n < 0x10000 then '\\' :: 'u' :: hex 4 n
  else '\\' :: 'U' :: hex 8 n

/-- Single quotes, unless the text has one and no double quote. -/
def echo (s : String) : String :=
  let cs := s.toList
  let mark := if cs.contains apostrophe && !cs.contains '"' then '"' else apostrophe
  .ofList (mark :: cs.flatMap (echoedChar mark) ++ [mark])

end SchemaClient.Text
