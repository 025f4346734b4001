import SchemaClient.Text.Basic
import SchemaClient.Text.Character

/-! Names in a generated module: how they are made from names on the wire, and kept apart. -/
namespace SchemaClient.Name

/-! ### Reserved names -/

/-- Words that can never be a name in the generated language, in its version 3.11. -/
def keywords : List String := [
  "False", "None", "True", "and", "as", "assert", "async", "await", "break", "class", "continue",
  "def", "del", "elif", "else", "except", "finally", "for", "from", "global", "if", "import", "in",
  "is", "lambda", "nonlocal", "not", "or", "pass", "raise", "return", "try", "while", "with",
  "yield"]

/-- Words that are keywords in some places only, in version 3.11 of the generated language. -/
def softKeywords : List String := ["_", "case", "match"]

/-- Names bound at the top level of every generated module. -/
def moduleNames : List String := [
  "annotations", "enum", "typing", "httpx", "pydantic", "runtime", "T", "register_enum_converters",
  "_model"]

/-- Built-in names that stand in generated type hints and enum bases. -/
def builtinNames : List String := ["str", "int", "float", "bool", "list"]

/-- Public attributes of the base class of all generated models, which is that of `pydantic` 2.11. -/
def modelAttributes : List String := [
  "construct", "copy", "dict", "from_orm", "json", "model_computed_fields", "model_config",
  "model_construct", "model_copy", "model_dump", "model_dump_json", "model_extra", "model_fields",
  "model_fields_set", "model_json_schema", "model_parametrized_name", "model_post_init",
  "model_rebuild", "model_validate", "model_validate_json", "model_validate_strings", "parse_file",
  "parse_obj", "parse_raw", "schema", "schema_json", "update_forward_refs", "validate"]

/-! ### Snake case and Pascal case -/

/-- Puts an underscore between a character other than a line feed and a capital with a lowercase
letter after it. Reading goes on behind the lowercase letters that follow the capital; `inRun` says
that it stands among them. Capitals and lowercase letters are those of ASCII. -/
def separateWords (inRun : Bool) : List Char → List Char
  | [] => []
  | [c] => [c]
  | c :: d :: rest =>
    if inRun && c.isLower then c :: separateWords true (d :: rest)
    else if c != '\n' && d.isUpper && rest.head?.any Char.isLower then
      c :: '_' :: d :: separateWords true rest
    else c :: separateWords false (d :: rest)

/-- Puts an underscore between a lowercase letter or digit and a capital. -/
def separateCapitals : List Char → List Char
  | [] => []
  | [c] => [c]
  | c :: d :: rest =>
    if (c.isLower || c.isDigit) && d.isUpper then c :: '_' :: separateCapitals (d :: rest)
    else c :: separateCapitals (d :: rest)

def snake (cs : List Char) : List Char :=
  Text.lower (separateCapitals (separateWords false cs))

def snakeCase (s : String) : String :=
  .ofList (snake s.toList)

def pascalCase (s : String) : String :=
  .ofList ((Text.splitAt '_' (snake s.toList)).flatMap Text.capitalize)

/-! ### Names of members -/

/-- Moves leading underscores to the end as a single one: `_id` becomes `id_`. A name of
underscores alone becomes `fallback` with an underscore. -/
def moveUnderscores (fallback : List Char) : List Char → List Char
  | [] => []
  | c :: cs =>
    if c == '_' then
      match cs.dropWhile (· == '_') with
      | [] => fallback ++ ['_']
      | d :: rest => d :: rest ++ ['_']
    else c :: cs

/-- Keywords, hard and soft, get an underscore. -/
def safeIdentifier (s : String) : String :=
  if keywords.contains s || softKeywords.contains s then s ++ "_" else s

/-- Member name of a field or argument: `createdAt` becomes `created_at`, `from` becomes `from_`
and `_id` becomes `id_`. -/
def memberName (wire : String) : String :=
  safeIdentifier (.ofList (moveUnderscores "field".toList (snake wire.toList)))

/-- Member name of an enum value: `ACTIVE` stays, `inProgress` becomes `IN_PROGRESS` and `_hidden`
becomes `HIDDEN_`. -/
def enumMemberName (wire : String) : String :=
  let cs := wire.toList
  let words := if Text.isUpperText cs || !cs.any Text.isUpperChar then cs else snake cs
  .ofList (moveUnderscores "VALUE".toList (Text.upper words))

/-! ### Numbered names -/

/-- The name without its trailing underscores. -/
def stem (name : String) : String :=
  .ofList (Text.dropEndWhile (· == '_') name.toList)

def numbered (base : String) (k : Nat) : String :=
  base ++ "_" ++ toString k

/-- The first numbered name that is free, counting from two. Of more than `bound` candidates one
has to be free. -/
def firstNumbered (free : String → Bool) (base : String) (bound : Nat) : String :=
  let k := ((List.range' 2 bound).find? fun k => free (numbered base k)).getD (bound + 2)
  numbered base k

/-- The name itself if it is free, otherwise its stem with the least free number. -/
def fresh (free : String → Bool) (name : String) (bound : Nat) : String :=
  if free name then name else firstNumbered free (stem name) bound

/-- A name that is not among `taken`. One more candidate than there are taken names suffices. -/
def unique (taken : List String) (name : String) : String :=
  fresh (fun s => !taken.contains s) name (taken.length + 1)

/-- Makes the names unique from left to right, each also among the ones before it. -/
def uniqueAll (taken : List String) : List String → List String
  | [] => []
  | name :: rest =>
    let chosen := unique taken name
    chosen :: uniqueAll (chosen :: taken) rest

end SchemaClient.Name
