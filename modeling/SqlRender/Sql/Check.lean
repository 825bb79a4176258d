import SqlRender.Dialect.Registry
import SqlRender.Sql.Lexeme
import SqlRender.Sql.Tools

/-!
A reader for simple statements, which finds no more than quotes and parentheses that are not closed
and clauses that are empty.
-/

namespace SqlRender.Sql

/-- The pieces between semicolons, without the blanks. -/
def statements (lexemes : List Lexeme) : List (List Lexeme) :=
  let add (l : Lexeme) : List (List Lexeme) → List (List Lexeme)
    | [] => [[l]]
    | piece :: rest => (l :: piece) :: rest
  lexemes.foldr
    (fun l pieces ↦ match l with
      | .blank => pieces
      | .symbol ';' => [] :: pieces
      | l => add l pieces) [[]]

/-- Whether every parenthesis is closed and none is closed before it is opened. -/
def balanced : Nat → List Lexeme → Bool
  | depth, [] => depth = 0
  | depth, .symbol '(' :: rest => balanced (depth + 1) rest
  | 0, .symbol ')' :: _ => false
  | depth + 1, .symbol ')' :: rest => balanced depth rest
  | depth, _ :: rest => balanced depth rest

def clauseWords : List String := ["FROM", "WHERE", "HAVING", "BY", "LIMIT", "OFFSET"]

def isClauseWord (l : Lexeme) : Bool :=
  match l.upperWord? with
  | some w => clauseWords.contains w
  | none => false

/-- Whether something stands after each word that opens a clause. -/
def clausesFilled : List Lexeme → Bool
  | [] => true
  | [l] => !isClauseWord l
  | l :: next :: rest =>
    !(isClauseWord l && (isClauseWord next || next = .symbol ')')) && clausesFilled (next :: rest)

/-- Reads simple statements in the SQL of a standard dialect. -/
def readSimple (dialect sql : String) : Reading :=
  match Registry.standard.entries.lookup dialect with
  | none => .failed s!"Unknown dialect '{dialect}'"
  | some d =>
    let (found, closed) := lexemes d.capabilities.backslashEscapes sql
    let found := statements found
    if !closed || !found.all fun s ↦ balanced 0 s && clausesFilled s then .refused "<parse error>"
    else .pieces (found.map (!·.isEmpty))

end SqlRender.Sql
