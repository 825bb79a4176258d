import SqlRender.Text.Blank
import SqlRender.Text.Digits

namespace SqlRender.Api.BodyLimit

/-- The number of digits among which single underscores may stand. -/
def numeral? (cs : List Char) : Option Nat := do
  let digits ← Digits.ungrouped? cs
  if Digits.longest < digits.length then none else some (Digits.value digits)

/-- A sign in front is optional. -/
def signed? : List Char → Option Int
  | '-' :: cs => (numeral? cs).map fun (n : Nat) ↦ -(n : Int)
  | '+' :: cs => (numeral? cs).map Int.ofNat
  | cs => (numeral? cs).map Int.ofNat

/-- The number of bytes that a header declares: blanks around it, a sign, and single underscores
between its digits do not matter. -/
def declared? (header : String) : Option Int :=
  signed? (Text.trimmed Text.isWhiteSpace header.toList)

variable {α : Type}

/-- The chunks read so far, the last one first, and how many bytes they hold. -/
structure Intake (α : Type) where
  chunks : List (List α) := []
  size : Nat := 0

/-- A chunk that would pass the limit is not taken in. -/
def Intake.take? (limit : Nat) (s : Intake α) (chunk : List α) : Option (Intake α) :=
  if limit < s.size + chunk.length then none
  else some ⟨chunk :: s.chunks, s.size + chunk.length⟩

def Intake.body (s : Intake α) : List α := s.chunks.reverse.flatten

/-- Reads chunks up to the first one that passes the limit. -/
def collect (limit : Nat) (chunks : List (List α)) : Option (List α) :=
  (chunks.foldlM (Intake.take? limit) {}).map Intake.body

def exceeds (limit : Nat) (header : Option String) : Bool :=
  match header.bind declared? with
  | some n => (limit : Int) < n
  | none => false

/-- Only the bodies of these methods are counted. -/
def isCounted (method : String) : Bool := ["POST", "PUT", "PATCH"].contains method

/-- The body that reaches the handler, `none` where it is too large. A declared length above the
limit is refused without reading; otherwise the bytes are counted, whatever was declared. -/
def receive (limit : Nat) (header : Option String) (method : String) (chunks : List (List α)) :
    Option (List α) :=
  if exceeds limit header then none
  else if isCounted method then collect limit chunks
  else some chunks.flatten

end SqlRender.Api.BodyLimit
