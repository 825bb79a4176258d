import SqlRender.Error

namespace SqlRender

/-- How a dialect resolves the insertion of a row whose key exists. -/
inductive UpsertStyle where
  | onConflict
  | onDuplicateKey
  deriving DecidableEq

def UpsertStyle.name : UpsertStyle → String
  | onConflict => "on_conflict"
  | onDuplicateKey => "on_duplicate_key"

/-- What a dialect can express. -/
structure Capabilities where
  upsertStyle : Option UpsertStyle := none
  transactions : Bool := true
  returning : Bool := false
  fullJoin : Bool := true
  sourcelessSelect : Bool := false
  offsetWithoutLimit : Bool := true
  backslashEscapes : Bool := false
  parenthesizedCompound : Bool := true
  deriving DecidableEq

def Capabilities.upsert (c : Capabilities) : Bool := c.upsertStyle.isSome

inductive PlaceholderStyle where
  | mark
  | numbered
  deriving DecidableEq

/-- The lexical rules of one backend. -/
structure Dialect where
  name : String
  kind : String := "CustomDialect"
  identifierQuotes : String × String := ("\"", "\"")
  /-- What stands for a character inside a string literal. -/
  stringEscapes : List (Char × String) := [('\'', "''")]
  /-- Characters that no string literal can hold. -/
  forbidden : List Char := []
  boolLiterals : String × String := ("TRUE", "FALSE")
  fractionalSeconds : Bool := true
  /-- What stands around the hexadecimal digits of bytes. -/
  bytesQuotes : String × String := ("X'", "'")
  placeholderStyle : PlaceholderStyle := .mark
  /-- What stands around a column to name the value proposed for insertion. -/
  proposedQuotes : Option (String × String) := none
  /-- Literals are inlined unless a render asks for placeholders. -/
  inlines : Bool := false
  capabilities : Capabilities := {}
  deriving DecidableEq

namespace Text

/-- The pieces of a text between the occurrences of `sep`. -/
def pieces (sep : Char) : List Char → List (List Char)
  | [] => [[]]
  | c :: cs =>
    if c = sep then [] :: pieces sep cs
    else match pieces sep cs with
      | [] => [[c]]
      | piece :: rest => (c :: piece) :: rest

/-- Each occurrence of `mark` is written twice, from the left; the next `copied` characters belong
to an occurrence that has been doubled already. -/
def doubled (mark : List Char) : Nat → List Char → List Char
  | _, [] => []
  | copied + 1, c :: cs => c :: doubled mark copied cs
  | 0, c :: cs =>
    if mark.isPrefixOf (c :: cs) then mark ++ c :: doubled mark (mark.length - 1) cs
    else c :: doubled mark 0 cs

end Text

namespace Dialect

variable (d : Dialect)

def display : String := s!"<{d.kind} {d.name}>"

/-- One part of a name in quotes; a star stands for itself. -/
def quotePart (part : List Char) : List Char :=
  if part = ['*'] then part
  else
    d.identifierQuotes.1.toList
      ++ Text.doubled d.identifierQuotes.2.toList 0 part ++ d.identifierQuotes.2.toList

/-- The parts of a dotted name are quoted one by one. -/
def quote (name : String) : String :=
  String.ofList (['.'].intercalate ((Text.pieces '.' name.toList).map d.quotePart))

def quoteAll (names : List String) : String := ", ".intercalate (names.map d.quote)

/-- The mark of the parameter at a position counted from 1. -/
def placeholder (position : Int) : String :=
  match d.placeholderStyle with
  | .mark => "?"
  | .numbered => s!"${position}"

/-- The value proposed for insertion into an already quoted column. -/
def proposed (column : String) : Except Error String :=
  match d.proposedQuotes with
  | some (before, after) => .ok (before ++ column ++ after)
  | none => .error (.unsupportedFeature .upsert d.name)

end Dialect

end SqlRender
