import SchemaClient.Code.Grammar.Statement

/-! Module text that follows the grammar. -/
namespace SchemaClient.Code

/-- Reads a rule, given how the rules below it are read. -/
def readRule (rules : Rules) : Rules
  | .expression => expression rules
  | .named => named rules
  | .chain level => chain rules level
  | .operand level => operand rules level
  | .moreOperands level first => moreOperands rules level first
  | .factor => factor rules
  | .trailers head => trailers rules head
  | .moreElements close elements => moreElements rules close elements
  | .moreEntries => moreEntries rules
  | .clauses => clauses rules
  | .moreClauses => moreClauses rules
  | .literals bytes => literals rules bytes
  | .arguments mayBeClauses stage => arguments rules mayBeClauses stage
  | .subscripts => subscripts rules
  | .parameters close state => parameters rules close state
  | .moreExpressions elements => moreFrom rules .expression .moreExpressions elements
  | .moreTargets elements => moreFrom rules (.chain .arithmetic) .moreTargets elements
  | .moreSubjects elements => moreFrom rules .named .moreSubjects elements
  | .dotted => dotted rules
  | .names => names rules
  | .modules => modules rules
  | .imports grouped => imports rules grouped
  | .moreAssigned target => moreAssigned rules target
  | .simples => simples rules
  | .statement => statement rules
  | .block => block rules
  | .moreStatements => moreStatements rules
  | .branches => branches rules
  | .handlers grouped => handlers rules grouped
  | .withItems grouped => withItems rules grouped
  | .pattern => pattern rules
  | .moreAlternatives => moreAlternatives rules
  | .morePatterns close => morePatterns rules close
  | .moreKeys => moreKeys rules
  | .moreFields stage => moreFields rules stage
  | .cases => cases rules

/-- Rules nested to a depth. -/
def rulesWithin : Nat → Rules
  | 0 => fun _ => Reader.fail
  | depth + 1 => readRule (rulesWithin depth)

/-- No lexeme nests more than sixteen rules. -/
def depthFor (ls : List Lexeme) : Nat :=
  16 * ls.length + 64

/-- Statements up to the end. Each takes a lexeme at least. -/
def readStatements (rules : Rules) : Nat → List Lexeme → Bool
  | _, [] => true
  | 0, _ :: _ => false
  | fuel + 1, ls =>
    match (rules .statement).run ls with
    | some (_, rest) => readStatements rules fuel rest
    | none => false

/-- The text is a module, as far as its grammar goes. -/
def wellFormed (names : CharacterNames) (s : String) : Bool :=
  match lexemes? names s.toList with
  | none => false
  | some ls => readStatements (rulesWithin (depthFor ls)) ls.length ls

end SchemaClient.Code
