import SchemaClient.Sdl.Fault

/-! From a text to its tokens. -/
namespace SchemaClient.Sdl

/-! ### Block strings -/

def isIndent (c : Char) : Bool :=
  c == ' ' || c == '\t'

private def isBlankLine (line : List Char) : Bool :=
  line.all isIndent

/-- The least indentation of the lines that are not blank. -/
def commonIndent (lines : List (List Char)) : Nat :=
  let indents := (lines.filter fun l => !isBlankLine l).map fun l => (l.takeWhile isIndent).length
  indents.min?.getD 0

/-- All lines but the first lose their common indentation; blank lines at both ends go. -/
def dedent : List (List Char) → List (List Char)
  | [] => []
  | first :: rest =>
    let common := commonIndent rest
    let lines := first :: rest.map (·.drop common)
    Text.dropEndWhile isBlankLine (lines.dropWhile isBlankLine)

/-- The text that the lines of a block string denote. -/
def blockText (lines : List (List Char)) : String :=
  .ofList (['\n'].intercalate (dedent lines))

/-! ### Tokens -/

def isNameStart (c : Char) : Bool :=
  c.isAlpha || c == '_'

def isNamePart (c : Char) : Bool :=
  c.isAlphanum || c == '_'

def isNewline (c : Char) : Bool :=
  c == '\n' || c == '\r'

/-- Characters between tokens that mean nothing. -/
def isIgnored (c : Char) : Bool :=
  c == ' ' || c == '\t' || c == ',' || c.toNat == 0xFEFF || isNewline c

/-- A token read from the front of a text, how many characters it takes, and the text behind it. -/
structure Reading where
  token : Token
  size : Nat
  rest : List Char

/-- A nonempty run of digits and the text behind it. -/
def readDigits (offset : Nat) (cs : List Char) : Except Fault (List Char × List Char) :=
  if cs.head?.any Char.isDigit then .ok (cs.takeWhile Char.isDigit, cs.dropWhile Char.isDigit)
  else .error (.malformed offset (.digitExpected cs.head?))

/-- The digits before the point: a zero stands alone. -/
def readWhole (offset : Nat) : List Char → Except Fault (List Char × List Char)
  | '0' :: rest =>
    if rest.head?.any Char.isDigit then
      .error (.malformed (offset + 1) (.digitAfterZero rest.head?))
    else .ok (['0'], rest)
  | cs => readDigits offset cs

/-- A point and the digits behind it, if there is one. -/
def readFraction (offset : Nat) : List Char → Except Fault (List Char × List Char)
  | '.' :: rest => do
    let (digits, rest) ← readDigits (offset + 1) rest
    return ('.' :: digits, rest)
  | cs => .ok ([], cs)

/-- An exponent, if there is one. -/
def readExponent (offset : Nat) : List Char → Except Fault (List Char × List Char)
  | [] => .ok ([], [])
  | e :: rest =>
    if e == 'e' || e == 'E' then do
      let sign := (rest.take 1).filter fun c => c == '+' || c == '-'
      let (digits, rest) ← readDigits (offset + 1 + sign.length) (rest.drop sign.length)
      return (e :: sign ++ digits, rest)
    else .ok ([], e :: rest)

/-- A number may not run into a point or a name. -/
def readNumber (offset : Nat) (cs : List Char) : Except Fault Reading := do
  let (sign, cs) := match cs with
    | '-' :: rest => (['-'], rest)
    | _ => ([], cs)
  let (whole, cs) ← readWhole (offset + sign.length) cs
  let integer := sign ++ whole
  let (fraction, cs) ← readFraction (offset + integer.length) cs
  let mantissa := integer ++ fraction
  let (exponent, cs) ← readExponent (offset + mantissa.length) cs
  let spelling := mantissa ++ exponent
  if cs.head?.any fun c => c == '.' || isNameStart c then
    throw (.malformed (offset + spelling.length) (.digitExpected cs.head?))
  let text := String.ofList spelling
  let isWhole := fraction.isEmpty && exponent.isEmpty
  return ⟨if isWhole then .int text else .float text, spelling.length, cs⟩

/-- An escape in braces, of which `size` characters are read and write `point` so far. The error is
the number of characters up to and including the one that spoils it. -/
def readBraced (size point : Nat) : List Char → Except Nat (Char × Nat)
  | [] => .error size
  | c :: rest =>
    if 12 ≤ size then .error size
    else if c == '}' then
      if 5 ≤ size + 1 && Text.isScalarValue point then .ok (Char.ofNat point, size + 1)
      else .error (size + 1)
    else
      match Text.hexValue? c with
      | none => .error (size + 1)
      | some digit => readBraced (size + 1) (16 * point + digit) rest

/-- The number that four characters write in hexadecimal; `none` if they do not. A text with fewer
than four characters is an error. -/
def readUnit : List Char → Except Fault (Option Nat)
  | a :: b :: c :: d :: _ => .ok (Text.hexNumber? [a, b, c, d])
  | _ => .error .offText

private def isHighSurrogate (n : Nat) : Bool :=
  0xD800 ≤ n && n ≤ 0xDBFF

private def isLowSurrogate (n : Nat) : Bool :=
  0xDC00 ≤ n && n ≤ 0xDFFF

/-- The second half of a surrogate pair, if an escape follows at all. -/
def readSecondHalf (high : Nat) : List Char → Except Fault (Option (Char × Nat))
  | '\\' :: 'u' :: cs => do
    let some low ← readUnit cs | return none
    return if isLowSurrogate low then some (Char.ofNat (Text.joinSurrogates high low), 12) else none
  | _ => .ok none

/-- An escape of four digits, or of two times four for a surrogate pair. The text starts behind the
backslash and the letter. -/
def readFixed (cs : List Char) : Except Fault (Option (Char × Nat)) := do
  let some code ← readUnit cs | return none
  if Text.isScalarValue code then return some (Char.ofNat code, 6)
  if isHighSurrogate code then readSecondHalf code (cs.drop 4) else return none

def simpleEscape? (c : Char) : Option Char :=
  match c with
  | '"' => some '"'
  | '/' => some '/'
  | '\\' => some '\\'
  | 'b' => some (Char.ofNat 8)
  | 'f' => some (Char.ofNat 12)
  | 'n' => some '\n'
  | 'r' => some '\r'
  | 't' => some '\t'
  | _ => none

/-- The character that an escape denotes and how many characters write it. The text starts with the
backslash, which stands at the offset. -/
def readEscape (offset : Nat) (cs : List Char) : Except Fault (Char × Nat) :=
  let spoiled := fun size => Fault.malformed offset (.unicodeEscape (.ofList (cs.take size)))
  match cs.drop 1 with
  | [] => .error .offText
  | 'u' :: '{' :: rest => (readBraced 3 0 rest).mapError spoiled
  | 'u' :: rest => do
    let some result ← readFixed rest | throw (spoiled 6)
    return result
  | c :: _ =>
    match simpleEscape? c with
    | some denoted => .ok (denoted, 2)
    | none => .error (.malformed offset (.characterEscape (.ofList (cs.take 2))))

/-- The rest of a string after its opening quote. `read` is what it denotes so far, back to front;
the result adds the offset behind the closing quote. -/
def readString : Nat → Nat → List Char → List Char → Except Fault (String × Nat × List Char)
  | 0, _, _, _ => .error .offText
  | fuel + 1, offset, read, cs =>
    match cs with
    | [] => .error (.malformed offset .unterminatedString)
    | c :: rest =>
      if c == '"' then .ok (.ofList read.reverse, offset + 1, rest)
      else if c == '\\' then do
        let (denoted, size) ← readEscape offset cs
        readString fuel (offset + size) (denoted :: read) (cs.drop size)
      else if isNewline c then .error (.malformed offset .unterminatedString)
      else readString fuel (offset + 1) (c :: read) rest

/-- The lines of a block string after its opening quotes. `line` and `done` are read back to front;
the result adds the offset behind the closing quotes. -/
def readBlock (offset : Nat) (line : List Char) (done : List (List Char)) :
    List Char → Except Fault (List (List Char) × Nat × List Char)
  | [] => .error (.malformed offset .unterminatedString)
  | '"' :: '"' :: '"' :: rest => .ok ((line.reverse :: done).reverse, offset + 3, rest)
  | '\\' :: '"' :: '"' :: '"' :: rest =>
    readBlock (offset + 4) ('"' :: '"' :: '"' :: line) done rest
  | '\r' :: '\n' :: rest => readBlock (offset + 2) [] (line.reverse :: done) rest
  | c :: rest =>
    if isNewline c then readBlock (offset + 1) [] (line.reverse :: done) rest
    else readBlock (offset + 1) (c :: line) done rest

/-- Reads the token at the front of a text that starts with neither an ignored character nor a
comment. -/
def readToken (offset : Nat) (cs : List Char) : Except Fault Reading :=
  match cs with
  | [] => .ok ⟨.endOfText, 0, []⟩
  | '"' :: '"' :: '"' :: rest => do
    let (lines, behind, rest) ← readBlock (offset + 3) [] [] rest
    return ⟨.block (blockText lines), behind - offset, rest⟩
  | '"' :: rest => do
    let (text, behind, rest) ← readString (rest.length + 1) (offset + 1) [] rest
    return ⟨.string text, behind - offset, rest⟩
  | '.' :: '.' :: '.' :: rest => .ok ⟨.symbol .spread, 3, rest⟩
  | c :: rest =>
    match Symbol.ofChar? c with
    | some s => .ok ⟨.symbol s, 1, rest⟩
    | none =>
      if c.isDigit || c == '-' then readNumber offset cs
      else if isNameStart c then
        let name := c :: rest.takeWhile isNamePart
        .ok ⟨.name (.ofList name), name.length, rest.dropWhile isNamePart⟩
      else if c == '\'' then .error (.malformed offset .singleQuote)
      else .error (.malformed offset (.unexpectedCharacter (some c)))

/-- The lexemes of a text up to its end, or up to a fault. -/
structure Scan where
  lexemes : List Lexeme
  fault : Option Fault

/-- The scan of a text that starts at an offset. Each step reads at least one character. -/
def scanFrom : Nat → Nat → List Char → Scan
  | 0, _, _ => ⟨[], some .offText⟩
  | fuel + 1, offset, cs =>
    match cs with
    | [] => ⟨[⟨.endOfText, offset⟩], none⟩
    | c :: rest =>
      if isIgnored c then scanFrom fuel (offset + 1) rest
      else if c == '#' then
        let comment := rest.takeWhile fun d => !isNewline d
        scanFrom fuel (offset + 1 + comment.length) (rest.drop comment.length)
      else
        match readToken offset cs with
        | .error fault => ⟨[], some fault⟩
        | .ok reading =>
          let behind := scanFrom fuel (offset + reading.size) reading.rest
          ⟨⟨reading.token, offset⟩ :: behind.lexemes, behind.fault⟩

def scan (s : String) : Scan :=
  let cs := s.toList
  scanFrom (cs.length + 1) 0 cs

end SchemaClient.Sdl
