namespace SqlRender.Digits

/-- The decimal digits of `n`, with zeros in front up to `width`. -/
def padded (width n : Nat) : String :=
  let text := toString n
  String.ofList (List.replicate (width - text.length) '0') ++ text

/-- A sign is always written. -/
def signed (n : Int) : String :=
  if n < 0 then s!"-{n.natAbs}" else s!"+{n.natAbs}"

/-- The number that a list of decimal digits denotes, read from the left. -/
def value (cs : List Char) : Nat :=
  cs.foldl (fun v c ↦ 10 * v + (c.toNat - '0'.toNat)) 0

/-- Refuses the empty list and all but the ASCII digits. -/
def value? (cs : List Char) : Option Nat :=
  if cs.isEmpty || !cs.all Char.isDigit then none else some (value cs)

/-- A sign in front is optional. -/
def int? : List Char → Option Int
  | '-' :: cs => (value? cs).map (fun n ↦ -(n : Int))
  | '+' :: cs => (value? cs).map Int.ofNat
  | cs => (value? cs).map Int.ofNat

/-- A whole number with more digits than this is neither read nor written. -/
def longest : Nat := 4300

/-- The number has too many digits to be written. -/
def isTooLong (n : Nat) : Bool := longest < (Nat.toDigits 10 n).length

/-- The digits of `cs`, where one underscore may stand between two digits. -/
def ungrouped? : List Char → Option (List Char)
  | [] => none
  | [c] => if c.isDigit then some [c] else none
  | c :: '_' :: cs => if c.isDigit then (ungrouped? cs).map (c :: ·) else none
  | c :: d :: cs => if c.isDigit then (ungrouped? (d :: cs)).map (c :: ·) else none

/-- The number a lower-case or upper-case hexadecimal digit denotes. -/
def hexValue? (c : Char) : Option Nat :=
  if c.isDigit then some (c.toNat - '0'.toNat)
  else if 'a' ≤ c ∧ c ≤ 'f' then some (c.toNat - 'a'.toNat + 10)
  else if 'A' ≤ c ∧ c ≤ 'F' then some (c.toNat - 'A'.toNat + 10)
  else none

def hexDigit (n : Nat) : Char := Nat.digitChar (n % 16)

/-- The `width` lowest hexadecimal digits of `n`, in lower case. -/
def hexPadded : Nat → Nat → List Char
  | 0, _ => []
  | width + 1, n => hexPadded width (n / 16) ++ [hexDigit n]

/-- Two lower-case hexadecimal digits for each byte. -/
def hexBytes (bytes : List UInt8) : String :=
  String.ofList (bytes.flatMap fun b ↦ hexPadded 2 b.toNat)

/-- Two hexadecimal digits make a byte; an odd digit is refused. -/
def bytes? : List Char → Option (List UInt8)
  | [] => some []
  | a :: b :: cs => do
    let high ← hexValue? a
    let low ← hexValue? b
    let rest ← bytes? cs
    return (16 * high + low).toUInt8 :: rest
  | [_] => none

end SqlRender.Digits
