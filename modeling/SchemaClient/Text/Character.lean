import SchemaClient.Text.Table.Case
import SchemaClient.Text.Table.Identifier
import SchemaClient.Text.Table.Printable

/-! Kinds of characters, and the case of a text. -/
namespace SchemaClient.Text

/-! ### Case -/

def isUpperChar (c : Char) : Bool :=
  if c.toNat < 128 then c.isUpper else inSpans c.toNat Table.upper

def isLowerChar (c : Char) : Bool :=
  if c.toNat < 128 then c.isLower else inSpans c.toNat Table.lower

def isTitleChar (c : Char) : Bool :=
  decide (128 ≤ c.toNat) && inSpans c.toNat Table.title

/-- The text has an uppercase character and none in lower or title case. -/
def isUpperText (cs : List Char) : Bool :=
  cs.any isUpperChar && !cs.any fun c => isLowerChar c || isTitleChar c

def isCased (c : Char) : Bool :=
  if c.toNat < 128 then c.isAlpha else inSpans c.toNat Table.cased

def isCaseIgnorable (c : Char) : Bool :=
  let n := c.toNat
  if n < 128 then n == 0x27 || n == 0x2E || n == 0x3A || n == 0x5E || n == 0x60
  else inSpans n Table.ignorable

/-- Looks up the several-character form first, then the single one. -/
private def mapped (several : List (Nat × List Nat)) (single : List Shift) (c : Char) :
    Option (List Char) :=
  match expansion? c.toNat several with
  | some image => some (image.map Char.ofNat)
  | none => (shift? c.toNat single).map fun n => [Char.ofNat n]

def lowerChar (c : Char) : List Char :=
  if c.toNat < 128 then [c.toLower]
  else (mapped Table.expandLower Table.toLower c).getD [c]

def upperChar (c : Char) : List Char :=
  if c.toNat < 128 then [c.toUpper]
  else (mapped Table.expandUpper Table.toUpper c).getD [c]

def titleChar (c : Char) : List Char :=
  if c.toNat < 128 then [c.toUpper]
  else (mapped Table.expandTitle Table.toTitle c).getD (upperChar c)

/-- The nearest character that is not passed over has case. -/
private def meetsCased (cs : List Char) : Bool :=
  match cs.dropWhile isCaseIgnorable with
  | [] => false
  | c :: _ => isCased c

/-- Lower case of a text that follows the reversed text `before`. A capital sigma at the end of a
word has a form of its own. -/
def lowerAfter (before : List Char) : List Char → List Char
  | [] => []
  | c :: rest =>
    (if c == 'Σ' then [if meetsCased before && !meetsCased rest then 'ς' else 'σ']
      else lowerChar c) ++ lowerAfter (c :: before) rest

def lower (cs : List Char) : List Char :=
  lowerAfter [] cs

def upper (cs : List Char) : List Char :=
  cs.flatMap upperChar

/-- The first character in title case and the others in lower case. -/
def capitalize : List Char → List Char
  | [] => []
  | c :: rest => titleChar c ++ lowerAfter [c] rest

/-! ### Words -/

def isWord (c : Char) : Bool :=
  if c.toNat < 128 then c.isAlphanum || c == '_'
  else inSpans c.toNat Table.wordOnly ||
    (inSpans c.toNat Table.identifierStart && !inSpans c.toNat Table.startOnly)

/-- The leading name of a dotted or subscripted text, or the whole text when it starts with none:
`typing` for `typing.Any`. The first character of a name is an ASCII letter or an underscore. -/
def leadingName : List Char → List Char
  | [] => []
  | c :: rest => if c.isAlpha || c == '_' then c :: rest.takeWhile isWord else c :: rest

/-! ### Identifiers -/

def isIdentifierStart (c : Char) : Bool :=
  if c.toNat < 128 then c.isAlpha || c == '_'
  else inSpans c.toNat Table.identifierStart

def isIdentifierPart (c : Char) : Bool :=
  if c.toNat < 128 then c.isAlphanum || c == '_'
  else inSpans c.toNat Table.identifierStart || inSpans c.toNat Table.identifierPart

def isIdentifier : List Char → Bool
  | [] => false
  | c :: rest => isIdentifierStart c && rest.all isIdentifierPart

/-! ### Printable characters -/

def isPrintable (c : Char) : Bool :=
  if c.toNat < 128 then decide (32 ≤ c.toNat) && decide (c.toNat < 127)
  else inSpans c.toNat Table.printable

end SchemaClient.Text
