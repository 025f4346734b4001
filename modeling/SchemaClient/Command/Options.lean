import SchemaClient.Table
import SchemaClient.Text.Literal

/-! Options on the command line, and what the command line says about itself. -/
namespace SchemaClient.Command

/-! ### Help -/

def versionText : String := "main, version 0.1.0\n"

def mainHelp : String :=
  "  Typed GraphQL client generator for Python.\n\n" ++
  "  Generate selector-based client modules from GraphQL schemas.\n\n" ++
  "Options:\n" ++
  "  --version  Show the version and exit.\n" ++
  "  --help     Show this message and exit.\n\n" ++
  "Commands:\n" ++
  "  generate  Generate a typed client module from a GraphQL schema.\n"

def generateHelp : String :=
  "  Generate a typed client module from a GraphQL schema.\n\n" ++
  "  Examples:\n\n" ++
  "      selectql generate --schema ./schema.graphql --output ./client.py\n\n" ++
  "      selectql generate -s ./schema.graphql -o ./api.py -c ApiClient\n\n" ++
  "Options:\n" ++
  "  -s, --schema FILE         Path to the GraphQL SDL file.  [required]\n" ++
  "  -o, --output FILE         Output file for the generated client module (e.g.,\n" ++
  "                            client.py).  [required]\n" ++
  "  -n, --namespace TEXT      Namespace named in the generated module (default:\n" ++
  "                            output file stem).\n" ++
  "  -c, --client-name TEXT    Name of the generated client class (default:\n" ++
  "                            GraphQLClient).\n" ++
  "  --template-dir DIRECTORY  Directory with templates overriding the built-in\n" ++
  "                            ones.\n" ++
  "  --header TEXT             Text added at the top of the generated file.\n" ++
  "  -v, --verbose             Enable verbose output.\n" ++
  "  --help                    Show this message and exit.\n"

/-! ### Suggestions -/

/-- How many elements two lists share at their fronts. -/
def commonStart [BEq α] : List α → List α → Nat
  | a :: as, b :: bs => if a == b then commonStart as bs + 1 else 0
  | _, _ => 0

/-- A run that two lists share, by its places in both and its length. -/
structure SharedRun where
  left : Nat
  right : Nat
  length : Nat

/-- The longest shared run; of several, the one that comes first on the left, then on the right. -/
def longestRun [BEq α] (as bs : List α) : SharedRun :=
  let candidates := (List.range as.length).flatMap fun i =>
    (List.range bs.length).map fun j => SharedRun.mk i j (commonStart (as.drop i) (bs.drop j))
  candidates.foldl (fun best run => if best.length < run.length then run else best) ⟨0, 0, 0⟩

/-- How many elements match: the longest shared run and, on either side of it, again. -/
def matching [BEq α] : Nat → List α → List α → Nat
  | 0, _, _ => 0
  | fuel + 1, as, bs =>
    let run := longestRun as bs
    if run.length = 0 then 0
    else
      matching fuel (as.take run.left) (bs.take run.right) + run.length +
        matching fuel (as.drop (run.left + run.length)) (bs.drop (run.right + run.length))

/-- A candidate with its likeness, the fraction `matched / total`. -/
structure Likeness where
  candidate : String
  matched : Nat
  total : Nat

def likeness (word candidate : String) : Likeness :=
  let as := candidate.toList
  let bs := word.toList
  ⟨candidate, 2 * matching (as.length + 1) as bs, as.length + bs.length⟩

/-- Three fifths suffice. -/
def Likeness.suffices (l : Likeness) : Bool :=
  3 * l.total ≤ 5 * l.matched

/-- Better candidates first; of equally good ones, the greater name. -/
def Likeness.before (l m : Likeness) : Bool :=
  if l.matched * m.total = m.matched * l.total then m.candidate ≤ l.candidate
  else m.matched * l.total < l.matched * m.total

/-- At most three candidates that resemble the word, the best first. -/
def suggestions (word : String) (candidates : List String) : List String :=
  let close := (candidates.map (likeness word)).filter Likeness.suffices
  ((close.mergeSort Likeness.before).take 3).map Likeness.candidate

/-! ### Options -/

/-- A long name, a short one perhaps, and whether a value follows. -/
structure OptionSpec where
  long : String
  short : Option String := none
  takesValue : Bool := true
deriving Repr, DecidableEq

/-- How a message names an option. -/
def OptionSpec.shown (o : OptionSpec) : String :=
  Text.join " / " ((o.long :: o.short.toList).map Text.echo)

/-- A command as it is shown in usage messages, and its options. -/
structure Scope where
  path : String
  operands : String
  options : List OptionSpec
  /-- Options may stand behind operands. -/
  interspersed : Bool
  /-- What is said about the command and its options. -/
  help : String

def helpOption : OptionSpec := { long := "--help", takesValue := false }

def versionOption : OptionSpec := { long := "--version", takesValue := false }

def mainScope : Scope :=
  { path := "main"
    operands := "COMMAND [ARGS]..."
    options := [versionOption, helpOption]
    interspersed := false
    help := mainHelp }

def schemaOption : OptionSpec := { long := "--schema", short := "-s" }

def outputOption : OptionSpec := { long := "--output", short := "-o" }

def namespaceOption : OptionSpec := { long := "--namespace", short := "-n" }

def clientNameOption : OptionSpec := { long := "--client-name", short := "-c" }

def templateDirOption : OptionSpec := { long := "--template-dir" }

def headerOption : OptionSpec := { long := "--header" }

def verboseOption : OptionSpec := { long := "--verbose", short := "-v", takesValue := false }

def generateScope : Scope :=
  { path := "main generate"
    operands := ""
    options := [schemaOption, outputOption, namespaceOption, clientNameOption, templateDirOption,
      headerOption, verboseOption, helpOption]
    interspersed := true
    help := generateHelp }

def Scope.usage (s : Scope) : String :=
  let operands := if s.operands == "" then "" else " " ++ s.operands
  "Usage: " ++ s.path ++ " [OPTIONS]" ++ operands ++ "\n"

inductive UsageError where
  | noSuchOption (scope : Scope) (name : String) (similar : List String)
  | valueRequired (name : String)
  | valueRefused (name : String)
  | missingOption (option : OptionSpec)
  | invalidValue (option : OptionSpec) (reason : String)
  | extraArguments (arguments : List String)
  | noSuchCommand (name : String)
  | missingCommand

namespace UsageError

def message : UsageError → String
  | noSuchOption _ name similar =>
    "No such option: " ++ name ++
      match similar with
      | [] => ""
      | [one] => " Did you mean " ++ one ++ "?"
      | several => " (Possible options: " ++ Text.join ", " (Text.sortedSet several) ++ ")"
  | valueRequired name => "Option " ++ Text.echo name ++ " requires an argument."
  | valueRefused name => "Option " ++ Text.echo name ++ " does not take a value."
  | missingOption option => "Missing option " ++ option.shown ++ "."
  | invalidValue option reason => "Invalid value for " ++ option.shown ++ ": " ++ reason
  | extraArguments [one] => "Got unexpected extra argument (" ++ one ++ ")"
  | extraArguments several =>
    "Got unexpected extra arguments (" ++ Text.join " " several ++ ")"
  | noSuchCommand name => "No such command " ++ Text.echo name ++ "."
  | missingCommand => "Missing command."

/-- The command whose usage is shown before the message, if any is. -/
def scope? : UsageError → Option Scope
  | noSuchOption scope .. => some scope
  | valueRequired _ | valueRefused _ => none
  | missingOption _ | invalidValue .. | extraArguments _ => some generateScope
  | noSuchCommand _ | missingCommand => some mainScope

/-- What is written to the error stream. -/
def text (e : UsageError) : String :=
  let usage := match e.scope? with
    | none => ""
    | some s => s.usage ++ "Try '" ++ s.path ++ " --help' for help.\n\n"
  usage ++ "Error: " ++ e.message ++ "\n"

end UsageError

/-- What the arguments say: options in their order, and what is left. -/
structure Parsed where
  given : List (OptionSpec × String) := []
  operands : List String := []

/-- The last value of an option. -/
def Parsed.value? (p : Parsed) (o : OptionSpec) : Option String :=
  (p.given.reverse.find? fun g => g.1 == o).map Prod.snd

def Parsed.has (p : Parsed) (o : OptionSpec) : Bool :=
  (p.value? o).isSome

/-- The options that are given, each once, in order of first appearance. -/
def Parsed.order (p : Parsed) : List OptionSpec :=
  (p.given.map Prod.fst).eraseDups

/-- Splits a text at its first equals sign. -/
def splitValue (s : String) : String × Option String :=
  let cs := s.toList
  let name := cs.takeWhile (· != '=')
  match cs.drop name.length with
  | [] => (s, none)
  | _ :: value => (.ofList name, some (.ofList value))

/-- The value of an option: the text attached to it, or the next argument. -/
def takeValue (name : String) (attached : Option String) (rest : List String) :
    Except UsageError (String × List String) :=
  match attached, rest with
  | some value, _ => .ok (value, rest)
  | none, value :: rest => .ok (value, rest)
  | none, [] => .error (.valueRequired name)

/-- Reads short options that stand together; the text behind one that takes a value is its value. -/
def readShort (s : Scope) (rest : List String) :
    List Char → Except UsageError (List (OptionSpec × String) × List String)
  | [] => .ok ([], rest)
  | c :: cs =>
    let name := String.ofList ['-', c]
    match s.options.find? fun o => o.short == some name with
    | none => .error (.noSuchOption s name [])
    | some o =>
      if o.takesValue then do
        let attached := if cs.isEmpty then none else some (String.ofList cs)
        let (value, rest) ← takeValue name attached rest
        return ([(o, value)], rest)
      else do
        let (given, rest) ← readShort s rest cs
        return ((o, "") :: given, rest)

/-- Reads one argument that starts with a dash. A name with two dashes is never a group of short
options. -/
def readOption (s : Scope) (argument : String) (rest : List String) :
    Except UsageError (List (OptionSpec × String) × List String) :=
  let (name, attached) := splitValue argument
  match s.options.find? fun o => o.long == name with
  | some o =>
    if o.takesValue then do
      let (value, rest) ← takeValue name attached rest
      return ([(o, value)], rest)
    else if attached.isSome then .error (.valueRefused name)
    else .ok ([(o, "")], rest)
  | none =>
    if Text.startsWith ['-', '-'] argument.toList then
      .error (.noSuchOption s name (suggestions name (s.options.map OptionSpec.long)))
    else readShort s rest (argument.toList.drop 1)

/-- Reads arguments; no step leaves more of them than there were. -/
def parseWithin (s : Scope) : Nat → Parsed → List String → Except UsageError Parsed
  | 0, p, rest => .ok { p with operands := p.operands ++ rest }
  | _ + 1, p, [] => .ok p
  | fuel + 1, p, argument :: rest =>
    if argument == "--" then .ok { p with operands := p.operands ++ rest }
    else if Text.startsWith ['-'] argument.toList && argument != "-" then do
      let (given, rest) ← readOption s argument rest
      parseWithin s fuel { p with given := p.given ++ given } rest
    else if s.interspersed then
      parseWithin s fuel { p with operands := p.operands ++ [argument] } rest
    else .ok { p with operands := p.operands ++ argument :: rest }

def parse (s : Scope) (arguments : List String) : Except UsageError Parsed :=
  parseWithin s (arguments.length + 1) {} arguments

end SchemaClient.Command
