import SqlRender.Template
import SqlRender.Text.Blank

namespace SqlRender.Sql

open Template (ScanState isQuote)

/-- The pieces of SQL text: runs of blanks, words and numbers, quoted regions with their quotes,
and single characters. -/
inductive Lexeme where
  | blank
  | word (text : String)
  | quoted (text : String)
  | symbol (c : Char)
  deriving DecidableEq

/-- The state of a scan: the characters of the piece that is being read and the pieces before it,
both with the last one first. -/
structure Scan where
  state : ScanState := .normal
  pending : List Char := []
  found : List Lexeme := []

def isWordChar (c : Char) : Bool := c.isAlphanum || c = '_' || c = '$' || 128 ≤ c.toNat

namespace Scan

def close (s : Scan) : List Lexeme :=
  if s.pending.isEmpty then s.found
  else
    let text := String.ofList s.pending.reverse
    (if s.state = .normal then .word text else .quoted text) :: s.found

def next (backslashEscapes : Bool) (s : Scan) (c : Char) : Scan :=
  let state := s.state.next backslashEscapes c
  match s.state with
  | .quoted .. =>
    let s := { s with pending := c :: s.pending }
    if state = .normal then ⟨.normal, [], s.close⟩ else { s with state }
  | .normal =>
    if isQuote c then ⟨state, [c], s.close⟩
    else if isWordChar c then { s with pending := c :: s.pending }
    else if Text.isBlank c then
      match s.close with
      | .blank :: found => ⟨.normal, [], .blank :: found⟩
      | found => ⟨.normal, [], .blank :: found⟩
    else ⟨.normal, [], .symbol c :: s.close⟩

end Scan

/-- The pieces of a text, and whether its last quoted region is closed. -/
def lexemes (backslashEscapes : Bool) (sql : String) : List Lexeme × Bool :=
  let s := sql.toList.foldl (Scan.next backslashEscapes) {}
  (s.close.reverse, s.state = .normal)

namespace Lexeme

/-- The text of a word in capitals, which keywords are compared by. -/
def upperWord? : Lexeme → Option String
  | word text => some (String.ofList (text.toList.map Char.toUpper))
  | _ => none

def text : Lexeme → String
  | blank => " "
  | word text => text
  | quoted text => text
  | symbol c => String.ofList [c]

end Lexeme

end SqlRender.Sql
