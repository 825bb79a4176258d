import SqlRender.Text.Blank
import SqlRender.Text.DecimalDigit
import SqlRender.Text.Digits

namespace SqlRender

/-- An arbitrary precision decimal: `digits * 10 ^ exponent` with a sign of its own, so that
`1.50` and `1.5` differ and zero has two signs. -/
inductive Decimal where
  | finite (negative : Bool) (digits : Nat) (exponent : Int)
  | infinite (negative : Bool)
  /-- A payload of zero is written as no payload. -/
  | nan (negative signaling : Bool) (payload : Nat)
  deriving DecidableEq

namespace Decimal

def sign (negative : Bool) : String := if negative then "-" else ""

/-- Plain notation: no exponent, and `-exponent` places after the point where the exponent is
negative. -/
def plain (negative : Bool) (digits : Nat) : Int → String
  | .ofNat e => sign negative ++ toString (digits * Nat.pow 10 e)
  | .negSucc e =>
    let scale := Nat.pow 10 (e + 1)
    sign negative ++ toString (digits / scale) ++ "." ++ Digits.padded (e + 1) (digits % scale)

/-- One digit in front of the point, the others behind it. -/
def mantissa (digits : Nat) : String :=
  match (toString digits).toList with
  | [] => ""
  | [c] => String.ofList [c]
  | c :: cs => String.ofList (c :: '.' :: cs)

/-- The exponent of ten of the leading digit. -/
def leadingExponent (digits : Nat) (exponent : Int) : Int :=
  exponent + (toString digits).length - 1

/-- The text of a decimal: plain where the exponent is at most zero and the leading digit stands
no more than six places behind the point, otherwise with an exponent. -/
def toText : Decimal → String
  | finite neg digits exponent =>
    let leading := leadingExponent digits exponent
    if exponent ≤ 0 ∧ -6 ≤ leading then plain neg digits exponent
    else sign neg ++ mantissa digits ++ "E" ++ Digits.signed leading
  | infinite neg => sign neg ++ "Infinity"
  | nan neg signaling payload =>
    sign neg ++ (if signaling then "sNaN" else "NaN")
      ++ (if payload = 0 then "" else toString payload)

def IsFinite : Decimal → Prop
  | finite .. => True
  | _ => False

instance : DecidablePred IsFinite
  | finite .. => isTrue trivial
  | infinite _ => isFalse id
  | nan .. => isFalse id

/-- Digits with an optional point and an optional exponent. -/
def number? (negative : Bool) (cs : List Char) : Option Decimal := do
  let (whole, rest) := cs.span Char.isDigit
  let (part, rest) := match rest with
    | '.' :: rest => rest.span Char.isDigit
    | _ => ([], rest)
  guard !(whole ++ part).isEmpty
  let exponent ← match rest with
    | [] => some 0
    | c :: rest => if c.toLower = 'e' then Digits.int? rest else none
  return finite negative (Digits.value (whole ++ part)) (exponent - part.length)

/-- The words for what is not finite, in any case; digits may follow the words for NaN. -/
def special? (negative : Bool) (cs : List Char) : Option Decimal :=
  match cs.map Char.toLower with
  | ['i', 'n', 'f'] | ['i', 'n', 'f', 'i', 'n', 'i', 't', 'y'] => some (infinite negative)
  | 'n' :: 'a' :: 'n' :: digits =>
    if digits.all Char.isDigit then some (nan negative false (Digits.value digits)) else none
  | 's' :: 'n' :: 'a' :: 'n' :: digits =>
    if digits.all Char.isDigit then some (nan negative true (Digits.value digits)) else none
  | _ => none

def unsigned? (negative : Bool) (cs : List Char) : Option Decimal :=
  (number? negative cs).orElse fun _ ↦ special? negative cs

/-- Blanks around the number and underscores in it are skipped, and the digits may be of any
script. -/
def parse? (s : String) : Option Decimal :=
  match ((Text.trimmed Text.isBlank s.toList).filter (· ≠ '_')).map Text.asciiDigit with
  | '-' :: cs => unsigned? true cs
  | '+' :: cs => unsigned? false cs
  | cs => unsigned? false cs

end Decimal

end SqlRender
