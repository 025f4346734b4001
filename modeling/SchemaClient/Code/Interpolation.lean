/-! Expressions within string literals. -/
namespace SchemaClient.Code

def isQuote (c : Char) : Bool :=
  c == '"' || c.toNat == 0x27

/-! ### Plain text -/

/-- Where reading plain text stands: behind a backslash, behind the escape for a named character, or
in its name. -/
inductive PlainState where
  | plain | escaped | named | inName
deriving DecidableEq, Repr

/-- What follows plain text: nothing, or a brace. A brace of the text itself stands twice, and a
single closing brace is refused; neither holds in a format. -/
def plainRest (raw inFormat : Bool) : PlainState → List Char → Option (List Char)
  | _, [] => some []
  | .inName, c :: rest => plainRest raw inFormat (if c == '}' then .plain else .inName) rest
  | .named, c :: rest => plainRest raw inFormat (if c == '{' then .inName else .plain) rest
  | state, c :: rest =>
    if c == '{' || c == '}' then
      match rest with
      | d :: more =>
        if inFormat then some (c :: rest)
        else if d == c then plainRest raw inFormat .plain more
        else if c == '{' then some (c :: rest)
        else none
      | [] => if inFormat || c == '{' then some [c] else none
    else if state = .escaped then plainRest raw inFormat (if c == 'N' then .named else .plain) rest
    else plainRest raw inFormat (if c == '\\' && !raw then .escaped else .plain) rest

/-! ### Expressions -/

/-- The quotes around a literal that is being read. -/
structure Quote where
  mark : Char
  triple : Bool
deriving DecidableEq, Repr

/-- The bracket that closes another. -/
def closingBracket? (c : Char) : Option Char :=
  match c with
  | '(' => some ')'
  | '[' => some ']'
  | '{' => some '}'
  | _ => none

/-- The literal and the brackets of an expression that are still open, innermost first. -/
structure HoleState where
  quote : Option Quote
  closers : List Char

inductive HoleStep where
  | refuse
  | stop
  /-- Goes on behind the character and as many more as given. -/
  | go (state : HoleState) (more : Nat)

/-- A character within a literal. -/
def stepInQuote (s : HoleState) (q : Quote) (c : Char) (rest : List Char) : HoleStep :=
  if c != q.mark then .go s 0
  else if !q.triple then .go { s with quote := none } 0
  else if rest.take 2 == [c, c] then .go { s with quote := none } 2
  else .go s 0

/-- A character outside all brackets. Signs of comparison do not end the expression. -/
def stepOutside (s : HoleState) (c : Char) (rest : List Char) : HoleStep :=
  if c == ')' || c == ']' then .refuse
  else if ['!', '=', '<', '>'].contains c && rest.head? == some '=' then .go s 1
  else if ['!', '=', ':', '}'].contains c then .stop
  else .go s 0

/-- There is no backslash and no comment in an expression. -/
def holeStep (s : HoleState) (c : Char) (rest : List Char) : HoleStep :=
  if c == '\\' then .refuse
  else
    match s.quote, closingBracket? c, s.closers with
    | some q, _, _ => stepInQuote s q c rest
    | none, some closer, closers => .go { s with closers := closer :: closers } 0
    | none, none, closers =>
      if isQuote c then
        if rest.take 2 == [c, c] then .go { s with quote := some ⟨c, true⟩ } 2
        else .go { s with quote := some ⟨c, false⟩ } 0
      else if c == '#' then .refuse
      else
        match closers with
        | [] => stepOutside s c rest
        | closer :: outer =>
          if c == closer then .go { s with closers := outer } 0
          else if [')', ']', '}'].contains c then .refuse
          else .go s 0

/-- The text of an expression, back to front in `taken`, and the text that begins with what ends it:
a brace, a colon, an exclamation mark or an equals sign. `more` characters are taken as they are. -/
def holeText (s : HoleState) (more : Nat) (taken : List Char) :
    List Char → Option (List Char × List Char)
  | [] => none
  | c :: rest =>
    if 0 < more then holeText s (more - 1) (c :: taken) rest
    else
      match holeStep s c rest with
      | .refuse => none
      | .stop => some (taken.reverse, c :: rest)
      | .go s more => holeText s more (c :: taken) rest

def isLineBlank (c : Char) : Bool :=
  c == ' ' || c == '\t' || c == '\n' || c.toNat == 12

/-- What follows an expression and how its value is converted. An equals sign shows the expression
itself too. -/
def afterConversion (cs : List Char) : Option (List Char) :=
  let cs :=
    match cs with
    | '=' :: rest => rest.dropWhile fun c => isLineBlank c || c.toNat == 11
    | _ => cs
  match cs with
  | '!' :: c :: rest => if ['s', 'r', 'a'].contains c then some rest else none
  | ['!'] => none
  | _ => some cs

/-- How deep formats may hold expressions. -/
def maxHoleDepth : Nat := 2

/-- The expressions of a text, with those in formats behind the expression that is formatted, and
what follows the text. Every expression takes a brace, so the fuel lasts for as many characters. -/
def holesFrom (raw : Bool) : Nat → Nat → List Char → Option (List (List Char) × List Char)
  | 0, _, _ => none
  | fuel + 1, depth, cs => do
    match ← plainRest raw (0 < depth) .plain cs with
    | '{' :: rest =>
      guard (depth < maxHoleDepth)
      let (hole, rest) ← holeText ⟨none, []⟩ 0 [] rest
      guard (!hole.all isLineBlank)
      let rest ← afterConversion rest
      let (inner, rest) ←
        match rest with
        | ':' :: rest => holesFrom raw fuel (depth + 1) rest
        | _ => some ([], rest)
      match rest with
      | '}' :: rest =>
        let (more, rest) ← holesFrom raw fuel depth rest
        return (hole :: inner ++ more, rest)
      | _ => none
    | rest => return ([], rest)

/-- The expressions within a string literal; `none` if its braces do not hold together. -/
def holes? (raw : Bool) (cs : List Char) : Option (List (List Char)) :=
  match holesFrom raw (cs.length + 1) 0 cs with
  | some (holes, []) => some holes
  | _ => none

end SchemaClient.Code
