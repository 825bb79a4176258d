import SqlRender.Sql.Check

namespace SqlRender.Sql

/-- The words that are written in capitals. -/
def keywords : List String :=
  ["SELECT", "DISTINCT", "ALL", "FROM", "WHERE", "AND", "OR", "NOT", "IN", "IS", "NULL", "LIKE",
   "BETWEEN", "EXISTS", "AS", "ON", "USING", "JOIN", "INNER", "LEFT", "RIGHT", "FULL", "OUTER",
   "CROSS", "NATURAL", "GROUP", "ORDER", "BY", "HAVING", "ASC", "DESC", "LIMIT", "OFFSET",
   "UNION", "EXCEPT", "INTERSECT", "INSERT", "INTO", "VALUES", "UPDATE", "SET", "DELETE",
   "RETURNING", "CONFLICT", "DUPLICATE", "KEY", "DO", "NOTHING", "CASE", "WHEN", "THEN", "ELSE",
   "END", "TRUE", "FALSE", "CREATE", "DROP", "TABLE"]

/-- The words that begin a clause, each on a line of its own. -/
def clauseOpeners : List String :=
  ["FROM", "WHERE", "GROUP", "ORDER", "HAVING", "LIMIT", "UNION", "EXCEPT", "VALUES", "SET"]

/-- The words of which the first one in a row begins a line. -/
def joinWords : List String :=
  ["INNER", "LEFT", "RIGHT", "FULL", "OUTER", "CROSS", "NATURAL", "JOIN"]

/-- The words after which a list of items begins. -/
def listOpeners : List String := ["SELECT", "DISTINCT", "BY"]

/-- The keywords that a parenthesis may follow. -/
def parenthesisKeywords : List String := ["IN", "VALUES", "USING", "FROM", "AS"]

/-- What stands between two parentheses, or outside all of them: the column of the first item of a
list once it is known, the column at which a condition is continued, and whether it is the
arguments of a function. -/
structure Frame where
  firstItem : Option Nat := none
  continued : Nat := 0
  isCall : Bool := false

/-- A layout in progress: the finished lines with the last one first, the line at which it stands,
and whether a blank comes before the next piece. -/
structure Layout where
  lines : List String := []
  line : String := ""
  blank : Bool := false
  frame : Frame := {}
  enclosing : List Frame := []
  previous : Lexeme := .blank
  afterBetween : Bool := false

namespace Layout

def hasStarted (s : Layout) : Bool := s.line.any (· ≠ ' ')

def write (s : Layout) (text : String) : Layout :=
  let gap := if s.blank && s.hasStarted then " " else ""
  { s with line := s.line ++ gap ++ text, blank := false }

def breakLine (s : Layout) (indent : Nat) : Layout :=
  if s.lines.isEmpty && s.line = "" then s
  else
    { s with
      lines := s.line :: s.lines
      line := String.ofList (List.replicate indent ' ')
      blank := false }

/-- The first item of a list sets the column of the items after it. -/
def writeItem (s : Layout) (text : String) : Layout :=
  let s := s.write text
  let column := s.line.length - text.length
  { s with frame.firstItem := some (s.frame.firstItem.getD column) }

def follows (s : Layout) (words : List String) : Bool :=
  match s.previous with
  | .word text => words.contains text
  | _ => false

/-- The end of an interval belongs to its beginning, other connectives begin a line, and so does
a clause outside of parentheses. -/
def writeKeyword (s : Layout) (w : String) : Layout :=
  let isConnective := w = "AND" || w = "OR"
  let beginsClause := s.enclosing.isEmpty
    && (clauseOpeners.contains w || (joinWords.contains w && !s.follows joinWords))
  if w = "AND" && s.afterBetween then { s.write w with afterBetween := false }
  else if isConnective then (s.breakLine s.frame.continued).write w
  else if beginsClause then
    { (s.breakLine 0).write w with frame := { continued := if w = "WHERE" then 2 else 0 } }
  else
    let s := { s.write w with afterBetween := w = "BETWEEN" }
    if listOpeners.contains w then { s with frame.firstItem := none } else s

/-- A name in front of a parenthesis calls a function, whose arguments stay on one line. -/
def opensCall (s : Layout) : Bool :=
  s.frame.isCall || match s.previous with
    | .word text => !keywords.contains text
    | .quoted text => text.startsWith "\x60"
    | _ => false

def writeOpening (s : Layout) : Layout :=
  let isCall := s.opensCall
  let s := s.writeItem "("
  { s with
    frame := { continued := s.line.length, isCall }
    enclosing := s.frame :: s.enclosing }

def writeClosing (s : Layout) : Layout :=
  let s := { s with blank := false }.write ")"
  match s.enclosing with
  | [] => s
  | frame :: rest => { s with frame, enclosing := rest }

def writeComma (s : Layout) : Layout :=
  let s := { s with blank := false }.write ","
  match s.frame.isCall, s.frame.firstItem with
  | false, some column => s.breakLine column
  | _, _ => { s with blank := true }

/-- A word next to a point or in front of a parenthesis is a name. -/
def isKeyword (s : Layout) (w : String) (next : Lexeme) : Bool :=
  keywords.contains w && s.previous ≠ Lexeme.symbol '.' && next ≠ Lexeme.symbol '.'
    && (next ≠ Lexeme.symbol '(' || parenthesisKeywords.contains w)

def place (s : Layout) (l next : Lexeme) : Layout :=
  match l with
  | .blank => { s with blank := s.previous ≠ Lexeme.symbol '(' }
  | .word text =>
    let w := String.ofList (text.toList.map Char.toUpper)
    if s.isKeyword w next then { s.writeKeyword w with previous := .word w }
    else { s.writeItem text with previous := l }
  | .symbol '(' => { s.writeOpening with previous := l }
  | .symbol ')' => { s.writeClosing with previous := l }
  | .symbol ',' => { s.writeComma with previous := l }
  | l => { s.writeItem l.text with previous := l }

def placeAll (s : Layout) : List Lexeme → Layout
  | [] => s
  | [l] => s.place l .blank
  | l :: next :: rest => placeAll (s.place l next) (next :: rest)

end Layout

def withoutTrailingBlanks (line : String) : String :=
  String.ofList (line.toList.reverse.dropWhile Text.isBlank).reverse

/-- Simple SQL text with its keywords in capitals, each clause on a line of its own, and the items
of a list one below the other. -/
def formatSimple (sql : String) : String :=
  let s := Layout.placeAll {} (lexemes true sql).1
  "\n".intercalate ((s.line :: s.lines).reverse.map withoutTrailingBlanks)

/-- The programs that texts are read and formatted with as long as they are simple. -/
def simpleTools : Tools where
  read := readSimple
  format sql := .ok (formatSimple sql)

end SqlRender.Sql
