import SchemaClient.Text.Literal

/-! Everything that can go wrong between a schema text and a client module. -/
namespace SchemaClient

inductive Error where
  | general (message : String)
  | schemaNotFound (message : String)
  | schemaSyntax (report : String)
  | unsupportedConstruct (construct : String) (name : Option String)
  | unsupportedDefault (type field reason : String)
  | invalidModule (report : String)
  | nameConflict (name conflict : String)
  /-- A place beyond the end of the text was asked for. -/
  | offText
  /-- Module text with a NUL character cannot be checked. -/
  | nulCharacter
  /-- A value was asked for a part that it does not have. -/
  | missingPart
  /-- A file does not hold text. -/
  | notText
  /-- Anything else that a hook or a template raises, by its kind. -/
  | foreign (kind : String)
deriving DecidableEq, Repr

namespace Error

/-- No schema block, with the usual message. -/
def noSchema : Error :=
  .schemaNotFound "Schema definition not found"

/-- The module for `filename` is not valid. The place in the module is not reported. -/
def invalidModuleFor (filename : String) : Error :=
  .invalidModule ("Generated invalid Python for " ++ filename ++
    ": <syntax error>\nTemplate: client.py.j2")

/-- The message of an error that is reported as one; the last five kinds are not. -/
def message? : Error → Option String
  | general message => some message
  | schemaNotFound message => some message
  | schemaSyntax report => some report
  | unsupportedConstruct construct name =>
    let named := match name with
      | none | some "" => ""
      | some n => " '" ++ n ++ "'"
    some ("Unsupported GraphQL construct: " ++ construct ++ named)
  | unsupportedDefault type field reason =>
    some ("Cannot inline default value of " ++ type ++ "." ++ field ++ ": " ++ reason)
  | invalidModule report => some report
  | nameConflict name conflict => some ("Type name '" ++ name ++ "' conflicts with " ++ conflict)
  | offText | nulCharacter | missingPart | notText | foreign _ => none

end Error

/-! ### Errors by their kind and by what they are told about -/

inductive ErrorKind where
  | general | schemaNotFound | schemaSyntax | unsupportedConstruct | unsupportedDefault
  | invalidModule | nameConflict
deriving DecidableEq, Repr

/-- What an error is told about. -/
inductive Detail where
  | absent
  | flag (b : Bool)
  | number (n : Int)
  /-- The digits times ten to the exponent. -/
  | decimal (negative : Bool) (digits : Nat) (exponent : Int)
  | text (s : String)
  | list (items : List Detail)
  | entries (items : List (String × Detail))
deriving Repr

namespace Detail

def zeros (n : Nat) : List Char :=
  List.replicate n '0'

/-- An exponent has a sign and two digits or more. -/
def exponentText (n : Int) : String :=
  let digits := toString n.natAbs
  (if n < 0 then "e-" else "e+") ++ (if digits.length < 2 then "0" ++ digits else digits)

/-- A decimal without needless zeros. The point stands behind `point` of the digits; far from them,
an exponent is written. -/
def pointed (digits : List Char) (point : Int) : String :=
  let kept := Text.dropEndWhile (· == '0') digits
  let count := point.toNat
  if kept.isEmpty then "0.0"
  else if point < -3 ∨ 16 < point then
    let rest := if kept.length < 2 then "" else "." ++ .ofList (kept.drop 1)
    .ofList (kept.take 1) ++ rest ++ exponentText (point - 1)
  else if point ≤ 0 then "0." ++ .ofList (zeros (-point).toNat ++ kept)
  else if kept.length ≤ count then .ofList (kept ++ zeros (count - kept.length)) ++ ".0"
  else .ofList (kept.take count) ++ "." ++ .ofList (kept.drop count)

def decimalText (negative : Bool) (digits : Nat) (exponent : Int) : String :=
  let digits := (toString digits).toList
  (if negative then "-" else "") ++ pointed digits (digits.length + exponent)

/-- The number that digits stand for. -/
def valueOf (digits : List Char) : Nat :=
  digits.foldl (fun n c => 10 * n + (c.toNat - 48)) 0

/-- A number that may have a sign in front. -/
def signedValueOf : List Char → Int
  | '-' :: digits => -(valueOf digits : Int)
  | '+' :: digits => valueOf digits
  | digits => valueOf digits

/-- Reads a number in the usual spelling. Only one with a point or an exponent is a decimal. -/
def ofSpelling (s : String) : Detail :=
  let isExponentMark := fun (c : Char) => c == 'e' || c == 'E'
  let mantissa := s.toList.takeWhile fun c => !isExponentMark c
  let exponent := (s.toList.dropWhile fun c => !isExponentMark c).drop 1
  let whole := mantissa.takeWhile (· != '.')
  let fraction := (mantissa.dropWhile (· != '.')).drop 1
  if mantissa.length == s.length && whole.length == s.length then .number (signedValueOf whole)
  else
    .decimal (whole.head? == some '-') (valueOf ((whole ++ fraction).filter Char.isDigit))
      (signedValueOf exponent - fraction.length)

mutual

/-- A detail with its texts in quotes. -/
def echoed : Detail → String
  | absent => "None"
  | flag b => if b then "True" else "False"
  | number n => toString n
  | decimal negative digits exponent => decimalText negative digits exponent
  | text s => Text.echo s
  | list items => "[" ++ Text.join ", " (echoedItems items) ++ "]"
  | entries items => "\x7b" ++ Text.join ", " (echoedEntries items) ++ "\x7d"

def echoedItems : List Detail → List String
  | [] => []
  | d :: rest => d.echoed :: echoedItems rest

def echoedEntries : List (String × Detail) → List String
  | [] => []
  | (key, d) :: rest => (Text.echo key ++ ": " ++ d.echoed) :: echoedEntries rest

end

/-- A text is shown as it is. -/
def shown : Detail → String
  | text s => s
  | d => d.echoed

/-- Says nothing. -/
def isEmpty : Detail → Bool
  | absent => true
  | flag b => !b
  | number n => n = 0
  | decimal _ digits _ => digits = 0
  | text s => s == ""
  | list items => items.isEmpty
  | entries items => items.isEmpty

/-- One detail is shown as it is, several as a list. -/
def report : List Detail → String
  | [] => ""
  | [d] => d.shown
  | ds => "(" ++ Text.join ", " (ds.map echoed) ++ ")"

end Detail

/-- The error of a kind; `none` if there are more or fewer details than it takes. -/
def Error.ofDetails : ErrorKind → List Detail → Option Error
  | .general, ds => some (.general (Detail.report ds))
  | .schemaSyntax, ds => some (.schemaSyntax (Detail.report ds))
  | .invalidModule, ds => some (.invalidModule (Detail.report ds))
  | .schemaNotFound, [] => some .noSchema
  | .schemaNotFound, [message] => some (.schemaNotFound message.shown)
  | .unsupportedConstruct, [construct] => some (.unsupportedConstruct construct.shown none)
  | .unsupportedConstruct, [construct, name] =>
    let name := if name.isEmpty then none else some name.shown
    some (.unsupportedConstruct construct.shown name)
  | .unsupportedDefault, [type, field, reason] =>
    some (.unsupportedDefault type.shown field.shown reason.shown)
  | .nameConflict, [name, conflict] => some (.nameConflict name.shown conflict.shown)
  | _, _ => none

end SchemaClient
