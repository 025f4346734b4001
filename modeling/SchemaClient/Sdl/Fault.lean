import SchemaClient.Sdl.Token
import SchemaClient.Text.Literal

/-! Why a text is not a document of the schema definition language, and where. -/
namespace SchemaClient.Sdl

/-! ### Causes -/

inductive Cause where
  | unexpectedCharacter (found : Option Char)
  | singleQuote
  | digitAfterZero (found : Option Char)
  | digitExpected (found : Option Char)
  | unterminatedString
  | unicodeEscape (text : String)
  | characterEscape (text : String)
  | expected (what : String) (found : Token)
  | unexpected (found : Token)
  | strayDescription
  | reservedEnumValue (found : Token)
  | variableInConstant (name : String)
deriving DecidableEq, Repr

inductive Fault where
  /-- The text breaks a rule at an offset. -/
  | malformed (offset : Nat) (cause : Cause)
  /-- The text ends inside an escape of fixed length. -/
  | offText
deriving DecidableEq, Repr

/-- A character of printable ASCII in quotes, any other by its code point in at least four
uppercase hexadecimal digits. -/
def showCharacter : Option Char → String
  | none => "<EOF>"
  | some c =>
    let n := c.toNat
    if 32 ≤ n && n ≤ 126 then .ofList ['\'', c, '\'']
    else
      let width := if n < 0x10000 then 4 else if n < 0x100000 then 5 else 6
      "U+" ++ .ofList ((Text.hex width n).map Char.toUpper)

def Cause.message : Cause → String
  | .unexpectedCharacter c => "Unexpected character: " ++ showCharacter c ++ "."
  | .singleQuote =>
    "Unexpected single quote character ('), did you mean to use a double quote (\")?"
  | .digitAfterZero c => "Invalid number, unexpected digit after 0: " ++ showCharacter c ++ "."
  | .digitExpected c => "Invalid number, expected digit but got: " ++ showCharacter c ++ "."
  | .unterminatedString => "Unterminated string."
  | .unicodeEscape text => "Invalid Unicode escape sequence: '" ++ text ++ "'."
  | .characterEscape text => "Invalid character escape sequence: '" ++ text ++ "'."
  | .expected what found => "Expected " ++ what ++ ", found " ++ found.describe ++ "."
  | .unexpected found => "Unexpected " ++ found.describe ++ "."
  | .strayDescription =>
    "Unexpected description, descriptions are supported only on type definitions."
  | .reservedEnumValue found =>
    found.describe ++ " is reserved and cannot be used for an enum value."
  | .variableInConstant name => "Unexpected variable '$" ++ name ++ "' in constant value."

/-- The message as it is reported. -/
def Cause.report (c : Cause) : String :=
  "Syntax Error: " ++ c.message

/-! ### The place of a fault -/

structure Location where
  line : Nat
  column : Nat
deriving DecidableEq, Repr

/-- The line and column at the end of the text before the offset. Line endings are those of the
wide sense, and an ending right before the offset opens no new line. -/
def Location.of (source : List Char) (offset : Nat) : Location :=
  let before := Text.lines (source.take offset)
  match before.getLast? with
  | none => ⟨1, 1⟩
  | some last => ⟨before.length, last.length + 1⟩

/-- The text in pieces of `size` characters; the last may be shorter. -/
def chunks (size : Nat) : Nat → List Char → List (List Char)
  | 0, _ => []
  | fuel + 1, cs => if cs.isEmpty then [] else cs.take size :: chunks size fuel (cs.drop size)

/-- A caret at the end of `width` columns. -/
def caret (width : Nat) : List Char :=
  List.replicate (width - 1) ' ' ++ ['^']

/-- Longer lines are shown in pieces. -/
def maxShownLine : Nat := 120

def shownPiece : Nat := 80

private def rowLabel (line : Nat) : String :=
  toString line ++ " |"

/-- The labelled rows of an excerpt; `none` if the text has no such row. -/
def excerptRows (source : List Char) (place : Location) : Option (List (String × List Char)) := do
  let rows := Text.rows source
  let here ← rows[place.line - 1]?
  if here.length ≤ maxShownLine then
    let before := if place.line ≤ 1 then none else rows[place.line - 2]?
    return (before.map fun r => (rowLabel (place.line - 1), r)).toList ++
      [(rowLabel place.line, here), ("|", caret place.column)] ++
      (rows[place.line]?.map fun r => (rowLabel (place.line + 1), r)).toList
  else
    let pieces := chunks shownPiece here.length here
    let whole := place.column / shownPiece
    return [(rowLabel place.line, pieces.head?.getD [])] ++
      ((pieces.drop 1).take whole).map (fun p => ("|", p)) ++
      [("|", caret (place.column % shownPiece))] ++
      (pieces[whole + 1]?.map fun p => ("|", p)).toList

/-- Labels are right-justified, and an empty row shows its label alone. -/
def layRows (rows : List (String × List Char)) : String :=
  let width := rows.foldl (fun w r => max w r.1.length) 0
  let lay := fun (r : String × List Char) =>
    String.ofList (List.replicate (width - r.1.length) ' ') ++ r.1 ++
      (if r.2.isEmpty then "" else " " ++ String.ofList r.2)
  Text.join "\n" (rows.map lay)

/-- The full report of a fault at an offset; `none` if its line cannot be shown. -/
def report? (source : String) (offset : Nat) (cause : Cause) : Option String := do
  let here := Location.of source.toList offset
  let rows ← excerptRows source.toList here
  return cause.report ++ "\n\nGraphQL request:" ++ toString here.line ++ ":" ++
    toString here.column ++ "\n" ++ layRows rows

end SchemaClient.Sdl
