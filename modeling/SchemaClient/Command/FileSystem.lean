import SchemaClient.Text.Basic

/-! Files and directories, and paths to them. -/
namespace SchemaClient

/-- A place in a file system, by the names that lead to it from the root. -/
abbrev Place := List String

structure FileSystem where
  files : List (Place × ByteArray) := []
  /-- All directories but the root. -/
  directories : List Place := []
  workingDirectory : Place := []

inductive FileEntry where
  | missing
  | file (content : ByteArray)
  | directory

/-- Why a path cannot be used. -/
inductive PathFault where
  | missing
  /-- It leads through a file. -/
  | notDirectory
  /-- A file stands where a directory is to be. -/
  | isFile
  | isDirectory
  | tooLong
deriving DecidableEq, Repr

/-- The longest name, in bytes. -/
def maxNameBytes : Nat := 255

/-- The longest path, in bytes. -/
def maxPathBytes : Nat := 4095

namespace FileSystem

def isDirectory (fs : FileSystem) (p : Place) : Bool :=
  p.isEmpty || fs.directories.contains p

def file? (fs : FileSystem) (p : Place) : Option ByteArray :=
  (fs.files.find? fun f => f.1 == p).map Prod.snd

/-- The places on the way to a place, itself included. -/
def wayTo (p : Place) : List Place :=
  (List.range' 1 p.length).map p.take

/-- The file system of some files, the directories that hold them and the working directory. -/
def ofFiles (workingDirectory : Place) (files : List (Place × ByteArray)) : FileSystem :=
  { files
    directories := (wayTo workingDirectory ++ files.flatMap fun f => wayTo f.1.dropLast).eraseDups
    workingDirectory }

def entry (fs : FileSystem) (p : Place) : FileEntry :=
  if fs.isDirectory p then .directory
  else
    match fs.file? p with
    | some content => .file content
    | none => .missing

/-- Where a name leads from a place. Two dots lead to the place above; the root is above itself. -/
def step (here : Place) (name : String) : Place :=
  if name == ".." then here.dropLast else here ++ [name]

/-- Follows names. All but the last lead to directories. -/
def walk (fs : FileSystem) : Place → List String → Except PathFault Place
  | here, [] => .ok here
  | here, name :: rest =>
    match fs.entry here with
    | .missing => .error .missing
    | .file _ => .error .notDirectory
    | .directory =>
      if maxNameBytes < name.utf8ByteSize then .error .tooLong
      else fs.walk (step here name) rest

/-- Writes a file anew. -/
def write (fs : FileSystem) (p : Place) (content : ByteArray) : FileSystem :=
  { fs with files := fs.files.filter (fun f => f.1 != p) ++ [(p, content)] }

def makeDirectory (fs : FileSystem) (p : Place) : FileSystem :=
  { fs with directories := fs.directories ++ [p] }

/-- The files that are new or whose content differs from that in an earlier state. -/
def changedSince (fs earlier : FileSystem) : List (Place × ByteArray) :=
  fs.files.filter fun f => earlier.file? f.1 != some f.2

end FileSystem

/-! ### Paths -/

/-- Empty names and single dots lead nowhere. -/
def isStep (part : String) : Bool :=
  part != "" && part != "."

/-- Everything between slashes. -/
def rawParts (path : String) : List String :=
  (Text.splitAt '/' path.toList).map String.ofList

/-- The names in a path. -/
def pathParts (path : String) : List String :=
  (rawParts path).filter isStep

def isAbsolute (path : String) : Bool :=
  path.toList.head? == some '/'

/-- Exactly two slashes in front of a path are kept. -/
def rootOf (path : String) : String :=
  match path.toList with
  | '/' :: '/' :: '/' :: _ => "/"
  | '/' :: '/' :: _ => "//"
  | '/' :: _ => "/"
  | _ => ""

/-- The path of some names, as it is shown. -/
def showParts (root : String) (parts : List String) : String :=
  match root ++ Text.join "/" parts with
  | "" => "."
  | shown => shown

/-- A path as it is shown. -/
def showPath (path : String) : String :=
  showParts (rootOf path) (pathParts path)

/-- The last name of a path. -/
def fileName (path : String) : String :=
  (pathParts path).getLast?.getD ""

/-- A name without its last extension. A dot at either end makes none. -/
def fileStem (name : String) : String :=
  match (Text.splitAt '.' name.toList).reverse with
  | last :: first :: rest =>
    let stem := (['.'].intercalate (first :: rest).reverse)
    if last.isEmpty || stem.isEmpty then name else .ofList stem
  | _ => name

namespace FileSystem

/-- Where a path starts. -/
def startOf (fs : FileSystem) (path : String) : Place :=
  if isAbsolute path then [] else fs.workingDirectory

/-- The place that the first names of a path lead to. -/
def follow (fs : FileSystem) (path : String) (parts : List String) : Except PathFault Place :=
  if maxPathBytes < (showParts (rootOf path) parts).utf8ByteSize then .error .tooLong
  else fs.walk (fs.startOf path) parts

/-- What stands at a path. An empty path and one that is too long lead nowhere, and only a directory
is found before a slash. -/
def lookup (fs : FileSystem) (path : String) : FileEntry :=
  if path == "" || maxPathBytes < path.utf8ByteSize then .missing
  else
    match (fs.follow path (pathParts path)).map fs.entry with
    | .ok (.file content) =>
      if (rawParts path).getLast?.all isStep then .file content else .missing
    | .ok e => e
    | .error _ => .missing

/-- The files that an attempt to make directories leaves, and what has stopped it. -/
structure Attempt where
  files : FileSystem
  fault : Option PathFault := none

/-- Makes the directory that names lead to, if only the last of them is missing. -/
def ensureDirectory (fs : FileSystem) (path : String) (parts : List String) : Attempt :=
  match fs.follow path parts with
  | .error fault => { files := fs, fault }
  | .ok p =>
    match fs.entry p with
    | .directory => { files := fs }
    | .missing => { files := fs.makeDirectory p }
    | .file _ => { files := fs, fault := some .isFile }

/-- Makes the directory that the first `count` names of a path lead to. The directories on the way
are made only if one of them is missing, and stay if the last one cannot be made. -/
def ensureDirectories (fs : FileSystem) (path : String) (parts : List String) : Nat → Attempt
  | 0 => { files := fs }
  | count + 1 =>
    let names := parts.take (count + 1)
    let made := fs.ensureDirectory path names
    if made.fault = some .missing then
      let above := fs.ensureDirectories path parts count
      if above.fault.isSome then above else above.files.ensureDirectory path names
    else made

/-- Writes text to the file at a path, in a directory that is there. -/
def writeText (fs : FileSystem) (path : String) (text : String) : Except PathFault FileSystem := do
  let p ← fs.follow path (pathParts path)
  match fs.entry p with
  | .directory => throw .isDirectory
  | .missing | .file _ => return fs.write p text.toUTF8

end FileSystem

end SchemaClient
