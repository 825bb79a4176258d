namespace SqlRender.Text

/-- The forms of Unicode text in bytes. -/
inductive Encoding where
  | utf8
  | utf16 (bigEndian : Bool)
  | utf32 (bigEndian : Bool)
  deriving DecidableEq

namespace Encoding

/-- The form of a text that begins with an ASCII character, by the zeros among its first bytes. -/
def ofZeros : List UInt8 → Encoding
  | 0 :: 0 :: _ :: _ :: _ => utf32 true
  | 0 :: _ :: _ :: _ :: _ => utf16 true
  | _ :: 0 :: 0 :: 0 :: _ => utf32 false
  | _ :: 0 :: _ :: _ :: _ => utf16 false
  | [0, _] => utf16 true
  | [_, 0] => utf16 false
  | _ => utf8

/-- A byte order mark tells the form and does not belong to the text. -/
def detect : List UInt8 → Encoding × List UInt8
  | 0 :: 0 :: 0xFE :: 0xFF :: rest => (utf32 true, rest)
  | 0xFF :: 0xFE :: 0 :: 0 :: rest => (utf32 false, rest)
  | 0xFE :: 0xFF :: rest => (utf16 true, rest)
  | 0xFF :: 0xFE :: rest => (utf16 false, rest)
  | 0xEF :: 0xBB :: 0xBF :: rest => (utf8, rest)
  | bytes => (ofZeros bytes, bytes)

end Encoding

def isHighSurrogate (n : Nat) : Bool := 0xD800 ≤ n && n < 0xDC00

def isLowSurrogate (n : Nat) : Bool := 0xDC00 ≤ n && n < 0xE000

/-- The character of two surrogates. -/
def ofSurrogates (high low : Nat) : Char :=
  Char.ofNat (0x10000 + (high - 0xD800) * 0x400 + (low - 0xDC00))

variable (standIn : Char)

/-- A surrogate without a partner is no character: `standIn` is read in its place. -/
def ofCode (n : Nat) : Char :=
  if isHighSurrogate n || isLowSurrogate n then standIn else Char.ofNat n

/-- Two bytes to a unit. -/
def units16? (bigEndian : Bool) : List UInt8 → Option (List Nat)
  | [] => some []
  | a :: b :: rest =>
    let unit := if bigEndian then 256 * a.toNat + b.toNat else 256 * b.toNat + a.toNat
    (units16? bigEndian rest).map (unit :: ·)
  | [_] => none

def ofUnits16 : List Nat → List Char
  | [] => []
  | [n] => [ofCode standIn n]
  | m :: n :: rest =>
    if isHighSurrogate m && isLowSurrogate n then ofSurrogates m n :: ofUnits16 rest
    else ofCode standIn m :: ofUnits16 (n :: rest)

/-- Four bytes to a character. -/
def ofUnits32? (bigEndian : Bool) : List UInt8 → Option (List Char)
  | [] => some []
  | a :: b :: c :: d :: rest =>
    let value (a b c d : UInt8) : Nat :=
      256 * (256 * (256 * a.toNat + b.toNat) + c.toNat) + d.toNat
    let code := if bigEndian then value a b c d else value d c b a
    if 0x10FFFF < code then none
    else (ofUnits32? bigEndian rest).map (ofCode standIn code :: ·)
  | _ => none

/-- The text of some bytes, in the form that they show themselves. -/
def decode? (bytes : List UInt8) : Option String :=
  match Encoding.detect bytes with
  | (.utf8, bytes) => String.fromUTF8? ⟨bytes.toArray⟩
  | (.utf16 bigEndian, bytes) =>
    (units16? bigEndian bytes).map fun units ↦ String.ofList (ofUnits16 standIn units)
  | (.utf32 bigEndian, bytes) => (ofUnits32? standIn bigEndian bytes).map String.ofList

end SqlRender.Text
