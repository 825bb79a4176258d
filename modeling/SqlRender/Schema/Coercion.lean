import SqlRender.Schema.Checked
import SqlRender.Text.WholeNumber

namespace SqlRender.Schema

def text : Json → Checked String
  | .text s => .ok s
  | j => .fail .stringType j

/-- The words for the truth values, in small letters. -/
def truthWords : List (String × Bool) :=
  [("1", true), ("true", true), ("t", true), ("yes", true), ("y", true), ("on", true),
   ("0", false), ("false", false), ("f", false), ("no", false), ("n", false), ("off", false)]

/-- The whole numbers of 64 bits with a sign are less than this. -/
def int64Bound : Int := 9223372036854775808

/-- The whole number of a fraction that has none behind its point. The least number of 64 bits is
left out with those that are beyond them. -/
def wholeFloat (x : Binary64) : Except ProblemKind Int :=
  if x.IsFinite then
    match x.toInt? with
    | some n => if -int64Bound < n ∧ n < int64Bound then .ok n else .error .intParsingSize
    | none => .error .intFromFloat
  else .error .finiteNumber

/-- Truth values, the numbers 0 and 1, and the words for truth values in any case. Numbers beyond
64 bits are of another type. -/
def bool (j : Json) : Checked Bool :=
  let ofInt (n : Int) : Checked Bool :=
    if n = 0 then .ok false else if n = 1 then .ok true else .fail .boolParsing j
  match j with
  | .bool b => .ok b
  | .int n => if -int64Bound ≤ n ∧ n < int64Bound then ofInt n else .fail .boolType j
  | .float x =>
    match wholeFloat x with
    | .ok n => ofInt n
    | .error _ => .fail .boolType j
  | .text s =>
    match truthWords.lookup (String.ofList (s.toList.map Char.toLower)) with
    | some b => .ok b
    | none => .fail .boolParsing j
  | _ => .fail .boolType j

/-- Whole numbers in any form, truth values as 1 and 0. -/
def int (j : Json) : Checked Int :=
  match j with
  | .int n => .ok n
  | .bool b => .ok (if b then 1 else 0)
  | .float x =>
    match wholeFloat x with
    | .ok n => .ok n
    | .error kind => .fail kind j
  | .text s =>
    match WholeNumber.read s with
    | .ok n => .ok n
    | .error .malformed => .fail .intParsing j
    | .error .tooLong => .fail .intParsingSize j
  | _ => .fail .intType j

/-- A whole number that is not negative. -/
def count (j : Json) : Checked Nat :=
  (int j).andThen fun n ↦ if n < 0 then .fail .greaterThanEqual j else .ok n.toNat

variable {α : Type}

/-- Nothing is a value of its own. -/
def nullable (check : Json → Checked α) : Json → Checked (Option α)
  | .null => .ok none
  | j => (check j).map some

def itemsFrom (check : Json → Checked α) (index : Nat) : List Json → Checked (List α)
  | [] => .ok []
  | j :: rest => List.cons <$> (check j).under (.index index) <*> itemsFrom check (index + 1) rest

/-- A list, each item at its index. -/
def list (check : Json → Checked α) : Json → Checked (List α)
  | .array items => itemsFrom check 0 items
  | j => .fail .listType j

/-- One of the given words as it is spelled. -/
def word (kind : ProblemKind) (words : List (String × α)) (j : Json) : Checked α :=
  match j with
  | .text s =>
    match words.lookup s with
    | some a => .ok a
    | none => .fail kind j
  | _ => .fail kind j

/-- A member that must be there. -/
def required (members : List (String × Json)) (name : String) (check : Json → Checked α) :
    Checked α :=
  Checked.under (.name name) <|
    match members.lookup name with
    | some j => check j
    | none => .fail .missing (.object members)

/-- A member that may be left out. -/
def defaulted (members : List (String × Json)) (name : String) (default : α)
    (check : Json → Checked α) : Checked α :=
  match members.lookup name with
  | some j => (check j).under (.name name)
  | none => .ok default

end SqlRender.Schema
