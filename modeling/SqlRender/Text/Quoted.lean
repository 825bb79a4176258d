import SqlRender.Text.Digits
import SqlRender.Text.Printable

namespace SqlRender.Text

/-- Double quotes stand around a text that holds a single quote and no double quote. -/
def quoteFor (cs : List Char) : Char :=
  if cs.contains '\'' && !cs.contains '"' then '"' else '\''

/-- The escapes of the quote, the backslash and the three usual controls. -/
def shortEscape? (quote c : Char) : Option (List Char) :=
  if c = quote ∨ c = '\\' then some ['\\', c]
  else if c = '\t' then some ['\\', 't']
  else if c = '\n' then some ['\\', 'n']
  else if c = '\r' then some ['\\', 'r']
  else none

/-- A character that is not printable is written by its number, in as few of 2, 4 or 8
hexadecimal digits as hold it. -/
def quotedChar (quote c : Char) : List Char :=
  match shortEscape? quote c with
  | some escape => escape
  | none =>
    if isPrintable c then [c]
    else if c.toNat < 0x100 then '\\' :: 'x' :: Digits.hexPadded 2 c.toNat
    else if c.toNat < 0x10000 then '\\' :: 'u' :: Digits.hexPadded 4 c.toNat
    else '\\' :: 'U' :: Digits.hexPadded 8 c.toNat

/-- A text in quotes, as messages quote it. -/
def quoted (s : String) : String :=
  let cs := s.toList
  let quote := quoteFor cs
  String.ofList (quote :: cs.flatMap (quotedChar quote) ++ [quote])

/-- Bytes in quotes: the printable ASCII characters stand for themselves. A single quote is escaped
where it would end the text, or always. -/
def quotedBytes (escapeAlways : Bool) (bytes : List UInt8) : String :=
  let cs := bytes.map fun b ↦ Char.ofNat b.toNat
  let quote := quoteFor cs
  let write (c : Char) : List Char :=
    match shortEscape? (if escapeAlways then '\'' else quote) c with
    | some escape => escape
    | none =>
      if ' ' ≤ c ∧ c ≤ '~' then [c] else '\\' :: 'x' :: Digits.hexPadded 2 c.toNat
  String.ofList ('b' :: quote :: cs.flatMap write ++ [quote])

end SqlRender.Text
