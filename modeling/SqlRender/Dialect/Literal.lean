import SqlRender.Dialect.Basic
import SqlRender.Number.Shortest

namespace SqlRender.Dialect

variable (d : Dialect)

def escapeChar (c : Char) : List Char :=
  match d.stringEscapes.lookup c with
  | some text => text.toList
  | none => [c]

def stringLiteral (s : String) : Except Error String :=
  match d.forbidden.find? s.toList.contains with
  | some c => .error (.forbiddenCharacter d.name c)
  | none => .ok (String.ofList ('\'' :: s.toList.flatMap d.escapeChar ++ ['\'']))

def boolLiteral (b : Bool) : String := if b then d.boolLiterals.1 else d.boolLiterals.2

def bytesLiteral (data : List UInt8) : String :=
  d.bytesQuotes.1 ++ Digits.hexBytes data ++ d.bytesQuotes.2

/-- An instant is written at offset zero. No zeros stand in front of the year. -/
def datetimeLiteral (t : DateTime) : Except Error String :=
  match t.utc? with
  | some t =>
    let clock := if d.fractionalSeconds then t.clock.toMicroseconds else t.clock.wholeSeconds
    .ok ("'" ++ t.date.isoShortYear ++ " " ++ clock ++ "'")
  | none => .error .dateOutOfRange

def dateLiteral (t : Date) : String := "'" ++ t.iso ++ "'"

/-- A time keeps its offset. -/
def timeLiteral (t : TimeOfDay) : String :=
  "'" ++ t.clock.toMicroseconds ++ (t.offset.map UtcOffset.text).getD "" ++ "'"

/-- A number without an exponent; what is not finite has no literal. -/
def decimalLiteral : Decimal → Except Error String
  | .finite neg digits exponent => .ok (Decimal.plain neg digits exponent)
  | x => .error (.nonFinite x.toText)

def floatLiteral (x : Binary64) : Except Error String :=
  match x with
  | .finite .. => decimalLiteral x.toDecimal
  | _ => .error (.nonFinite x.toText)

def intLiteral (n : Int) : Except Error String :=
  if Digits.isTooLong n.natAbs then .error .longNumber else .ok (toString n)

theorem intLiteral_eq_ok_iff {n : Int} {sql : String} :
    intLiteral n = .ok sql ↔ Digits.isTooLong n.natAbs = false ∧ sql = toString n := by
  rw [intLiteral]
  split
  · next h => simp [h]
  · next h => simp [h, eq_comm]

theorem eq_longNumber_of_intLiteral {n : Int} {e : Error} (h : intLiteral n = .error e) :
    Digits.isTooLong n.natAbs = true ∧ e = .longNumber := by
  rw [intLiteral] at h
  split at h
  · next hlong =>
    cases h
    exact ⟨hlong, rfl⟩
  · cases h

/-- The text that stands for a value in inlined SQL. -/
def literal : Scalar → Except Error String
  | .null => .ok "NULL"
  | .bool b => .ok (d.boolLiteral b)
  | .int n => intLiteral n
  | .float x => floatLiteral x
  | .decimal x => decimalLiteral x
  | .text s => d.stringLiteral s
  | .bytes _ data => .ok (d.bytesLiteral data)
  | .datetime t => d.datetimeLiteral t
  | .date t => .ok (dateLiteral t)
  | .time t => .ok (timeLiteral t)

end SqlRender.Dialect
