import SchemaClient.Command.FileSystem
import SchemaClient.Command.Options
import SchemaClient.Generate
import SchemaClient.Text.Character

/-! The command that generates a client from a schema file. -/
namespace SchemaClient.Command

/-- Why the command breaks off without a message. -/
inductive Abort where
  | failed (e : Error)
  /-- The output cannot be written. -/
  | output (f : PathFault)
  /-- A path holds a NUL character. -/
  | nulInPath
deriving Repr

structure Outcome where
  exitCode : Nat := 0
  stdout : String := ""
  stderr : String := ""
  abort : Option Abort := none
  files : FileSystem

/-- What `generate` is told to do. -/
structure Request where
  schema : String
  schemaContent : ByteArray
  output : String
  namespaceName : Option String
  clientName : String
  templateDir : Option String
  header : Option String
  verbose : Bool

/-! ### Checking options -/

/-- Why nothing is generated. -/
inductive Refusal where
  | usage (e : UsageError)
  | abort (a : Abort)
  /-- Only help was asked for. -/
  | help (s : Scope)

def fileExpected (fs : FileSystem) (o : OptionSpec) (path : String) :
    Except UsageError ByteArray :=
  match fs.lookup path with
  | .missing => .error (.invalidValue o ("File " ++ Text.echo path ++ " does not exist."))
  | .directory => .error (.invalidValue o ("File " ++ Text.echo path ++ " is a directory."))
  | .file content => .ok content

def outputExpected (fs : FileSystem) (o : OptionSpec) (path : String) : Except UsageError Unit :=
  match fs.lookup path with
  | .directory => .error (.invalidValue o ("File " ++ Text.echo path ++ " is a directory."))
  | .missing | .file _ => .ok ()

def directoryExpected (fs : FileSystem) (o : OptionSpec) (path : String) :
    Except UsageError Unit :=
  match fs.lookup path with
  | .missing => .error (.invalidValue o ("Directory " ++ Text.echo path ++ " does not exist."))
  | .file _ => .error (.invalidValue o ("Directory " ++ Text.echo path ++ " is a file."))
  | .directory => .ok ()

/-- Refuses a path with a NUL character, and what an expectation refuses. -/
def checkPath (path : String) (expectation : Except UsageError Unit) : Except Refusal Unit :=
  if path.toList.any fun c => c.toNat == 0 then .error (.abort .nulInPath)
  else expectation.mapError .usage

/-- Checks an option that is given by its last value. -/
def checkGiven (fs : FileSystem) (p : Parsed) (o : OptionSpec) : Except Refusal Unit :=
  let value := (p.value? o).getD ""
  if o = schemaOption then checkPath value ((fileExpected fs o value).map fun _ => ())
  else if o = outputOption then checkPath value (outputExpected fs o value)
  else if o = templateDirOption then checkPath value (directoryExpected fs o value)
  else .ok ()

def required (p : Parsed) (o : OptionSpec) : Except Refusal String :=
  match p.value? o with
  | some value => .ok value
  | none => .error (.usage (.missingOption o))

/-- The options that are given are checked in their order, then what is missing and what is too
much. -/
def request (fs : FileSystem) (arguments : List String) : Except Refusal Request := do
  let p ← (parse generateScope arguments).mapError .usage
  if p.has helpOption then throw (.help generateScope)
  p.order.forM (checkGiven fs p)
  let schema ← required p schemaOption
  let output ← required p outputOption
  let schemaContent ← (fileExpected fs schemaOption schema).mapError .usage
  unless p.operands.isEmpty do
    throw (.usage (.extraArguments p.operands))
  return {
    schema
    schemaContent
    output
    namespaceName := p.value? namespaceOption
    clientName := (p.value? clientNameOption).getD Model.defaultClientName
    templateDir := p.value? templateDirOption
    header := p.value? headerOption
    verbose := p.has verboseOption }

/-! ### Generating -/

/-- Text in a file: any newline is read as a line feed. -/
def decode (content : ByteArray) : Option String :=
  (String.fromUTF8? content).map fun s => .ofList (Text.unifyNewlines s.toList)

def templateName : String := "client.py.j2"

/-- The layout in a directory of templates, if it has one. -/
def layoutIn (fs : FileSystem) (directory : Option String) : Layout :=
  match directory.map fun d => fs.lookup (d ++ "/" ++ templateName) with
  | some (.file content) => ((decode content).map Layout.template).getD .unreadable
  | _ => .standard

def Request.settings (r : Request) (layout : Layout) : Settings :=
  let header := match r.header with
    | none | some "" => []
    | some text => [Hook.header text]
  let namespaceName := match r.namespaceName with
    | none | some "" => fileStem (fileName r.output)
    | some name => name
  { namespaceName
    clientName := some r.clientName
    layout
    hooks := { post := header }
    filename := fileName r.output }

/-! ### Reporting -/

def classCount (code : String) : Nat :=
  Text.occurrences "\nclass " code

def selectorCount (code : String) : Nat :=
  Text.occurrences Module.selectorDecorator code

def introduction (r : Request) : String :=
  (if r.verbose then
    "Schema: " ++ showPath r.schema ++ "\nOutput: " ++ showPath r.output ++ "\n"
  else "") ++ "Generating client code...\n"

def statistics (r : Request) (code : String) : String :=
  if r.verbose then
    "  Lines: " ++ toString (Text.lines code.toList).length ++ "\n" ++
    "  Classes: " ++ toString (classCount code) ++ "\n" ++
    "  Selector methods: " ++ toString (selectorCount code) ++ "\n"
  else ""

def conclusion (code : String) : String :=
  "Done! Generated " ++ toString (classCount code) ++ " classes with " ++
    toString (selectorCount code) ++ " selector methods.\n"

def placeholderWarning (code : String) : String :=
  if code == placeholder then
    "Warning: no schema definition found, writing placeholder.\n"
  else ""

/-- Writes generated code and reports it. -/
def deliver (fs : FileSystem) (r : Request) (code : String) : Outcome :=
  let stdout := introduction r ++ statistics r code
  let stderr := placeholderWarning code
  let broken := fun (fault : PathFault) (stdout : String) (files : FileSystem) =>
    ({ exitCode := 1, stdout, stderr, abort := some (.output fault), files } : Outcome)
  let parents := (pathParts r.output).dropLast
  let made := fs.ensureDirectories r.output parents parents.length
  match made.fault with
  | some fault => broken fault stdout made.files
  | none =>
    let stdout := stdout ++ "Writing to " ++ showPath r.output ++ "...\n"
    match made.files.writeText r.output code with
    | .error fault => broken fault stdout made.files
    | .ok files => { stdout := stdout ++ conclusion code, stderr, files }

/-- An error with a message is reported; nothing is written then. -/
def runRequest (p : Platform) (fs : FileSystem) (r : Request) : Outcome :=
  let result : Except Error String := match decode r.schemaContent with
    | none => .error .notText
    | some sdl => (generate p sdl (r.settings (layoutIn fs r.templateDir))).result
  match result with
  | .ok code => deliver fs r code
  | .error e =>
    let failed : Outcome := { exitCode := 1, stdout := introduction r, files := fs }
    match e.message? with
    | none => { failed with abort := some (.failed e) }
    | some message => { failed with stderr := "Error: " ++ message ++ "\n" }

def refuse (fs : FileSystem) : Refusal → Outcome
  | .usage e => { exitCode := 2, stderr := e.text, files := fs }
  | .abort a => { exitCode := 1, abort := some a, files := fs }
  | .help s => { stdout := s.usage ++ "\n" ++ s.help, files := fs }

/-- A name that starts with a sign, as options do, is answered with help. -/
def unknownCommand (name : String) : Refusal :=
  match name.toList with
  | [] => .usage (.noSuchCommand name)
  | c :: _ =>
    if Text.isWord c && c != '_' then .usage (.noSuchCommand name) else .help mainScope

/-- Runs a command line on a file system. -/
def run (p : Platform) (fs : FileSystem) (arguments : List String) : Outcome :=
  match parse mainScope arguments with
  | .error e => refuse fs (.usage e)
  | .ok parsed =>
    match parsed.order.head?, parsed.operands with
    | some o, _ =>
      if o = versionOption then { stdout := versionText, files := fs }
      else refuse fs (.help mainScope)
    | none, [] =>
      refuse fs (if arguments.isEmpty then .help mainScope else .usage .missingCommand)
    | none, "generate" :: rest =>
      match request fs rest with
      | .error r => refuse fs r
      | .ok r => runRequest p fs r
    | none, name :: _ => refuse fs (unknownCommand name)

end SchemaClient.Command
