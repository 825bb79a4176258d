import SqlRender.Text.Blank

namespace SqlRender.Sql

/-- What comes of reading a text as SQL. -/
inductive Reading where
  /-- Whether each of the pieces of the text is a statement. -/
  | pieces (areStatements : List Bool)
  | refused (message : String)
  /-- The reader itself fails. -/
  | failed (message : String)

/-- A reader for the SQL of every dialect that has one. -/
abbrev Reader := (dialect sql : String) → Reading

/-- Programs for SQL text that come from elsewhere. A formatter may fail. -/
structure Tools where
  read : Reader
  format : String → Except String String

/-- What is reported about a text that should be one statement. -/
inductive Problem where
  | noReader (dialect : String)
  | unreadable (message : String)
  | statementCount (n : Nat)
  deriving DecidableEq

def Problem.message : Problem → String
  | noReader dialect => s!"No sqlglot reader for dialect '{dialect}'; validation skipped"
  | unreadable message => message
  | statementCount n => s!"Expected one SQL statement, parsed {n}"

/-- The dialects that have a reader, under names that are compared as they are spelled. -/
def readable : List String := ["mysql", "postgres", "sqlite", "clickhouse"]

/-- Reports a text that is not exactly one statement. Only where the reader fails there is no
report. -/
def check (read : Reader) (sql dialect : String) : Except String (List Problem) :=
  if readable.contains dialect then
    match read dialect sql with
    | .pieces areStatements =>
      let n := areStatements.count true
      .ok (if n = 1 then [] else [.statementCount n])
    | .refused message => .ok [.unreadable message]
    | .failed message => .error message
  else .ok [.noReader dialect]

/-- The formatted text without the blanks at its ends. -/
def layout (format : String → Except String String) (sql : String) : Except String String :=
  (format sql).map fun sql ↦ String.ofList (Text.trimmed Text.isBlank sql.toList)

end SqlRender.Sql
