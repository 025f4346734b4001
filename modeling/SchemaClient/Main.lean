import SchemaClient.Command.Run
import SchemaClient.Template

/-! The command line. -/
namespace SchemaClient.Main

/-- The texts on a command line that may be paths: whole arguments and what is attached to them. -/
def candidates (arguments : List String) : List String :=
  let attached := arguments.filterMap fun a => (Command.splitValue a).2
  let bundled := arguments.map fun a => String.ofList (a.toList.drop 2)
  (arguments ++ attached ++ bundled).filter (· != "")

/-- The places that names lead to. -/
def visited : Place → List String → List Place
  | here, [] => [here]
  | here, name :: rest => here :: visited (FileSystem.step here name) rest

/-- The places that a path touches, among them the template that it may hold. -/
def placesOf (workingDirectory : Place) (path : String) : List Place :=
  let start := if isAbsolute path then [] else workingDirectory
  visited start (pathParts path ++ [Command.templateName])

def showPlace (p : Place) : String :=
  "/" ++ Text.join "/" p

/-- The part of the file system that a command line can touch. -/
def observe (arguments : List String) : IO FileSystem := do
  let root ← IO.currentDir
  let workingDirectory := pathParts root.toString
  let mut fs : FileSystem := { directories := FileSystem.wayTo workingDirectory, workingDirectory }
  for place in (candidates arguments).flatMap (placesOf workingDirectory) do
    let path := root / showPlace place
    if fs.isDirectory place || (fs.file? place).isSome then continue
    if ← path.isDir then fs := fs.makeDirectory place
    else if ← path.pathExists then fs := fs.write place (← IO.FS.readBinFile path)
  return fs

def deliver (before after : FileSystem) : IO Unit := do
  for place in after.directories do
    unless before.isDirectory place do IO.FS.createDirAll (showPlace place)
  for (place, content) in after.changedSince before do
    IO.FS.writeBinFile (showPlace place) content

def describe : Command.Abort → String
  | .failed .notText => "a file does not hold text"
  | .failed .offText => "the place of an error in the schema cannot be shown"
  | .failed (.foreign kind) => "the template cannot be used (" ++ kind ++ ")"
  | .failed _ => "the module cannot be checked"
  | .output .missing => "the output directory is missing"
  | .output .isFile => "the output directory is a file"
  | .output .notDirectory => "the output path leads through a file"
  | .output .isDirectory => "the output is a directory"
  | .output .tooLong => "the output path is too long"
  | .nulInPath => "a path holds a NUL character"

end SchemaClient.Main

open SchemaClient in
def main (arguments : List String) : IO UInt32 := do
  let before ← Main.observe arguments
  let outcome := Command.run .basic before arguments
  IO.print outcome.stdout
  IO.eprint outcome.stderr
  if let some abort := outcome.abort then
    IO.eprintln ("Aborted: " ++ Main.describe abort)
  Main.deliver before outcome.files
  return outcome.exitCode.toUInt32
