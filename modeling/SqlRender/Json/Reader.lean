import SqlRender.Json.Basic
import SqlRender.Text.Encoding

namespace SqlRender.Json

/-- What is left to read, and how many characters were read before it. -/
structure Cursor where
  rest : List Char
  position : Nat

/-- Why a text has no value. -/
inductive ReadError where
  | malformed (position : Nat)
  | longNumber
  | deepNesting

abbrev Reading (α : Type) := Except ReadError (α × Cursor)

def isJsonBlank (c : Char) : Bool := c = ' ' || c = '\t' || c = '\n' || c = '\r'

def skipBlanksFrom (position : Nat) : List Char → Cursor
  | [] => ⟨[], position⟩
  | c :: cs => if isJsonBlank c then skipBlanksFrom (position + 1) cs else ⟨c :: cs, position⟩

def Cursor.skipBlanks (c : Cursor) : Cursor := skipBlanksFrom c.position c.rest

def Cursor.advance (c : Cursor) (n : Nat) : Cursor := ⟨c.rest.drop n, c.position + n⟩

/-- The number that four hexadecimal digits denote. -/
def hexUnit? : List Char → Option Nat
  | [a, b, c, d] => do
    let a ← Digits.hexValue? a
    let b ← Digits.hexValue? b
    let c ← Digits.hexValue? c
    let d ← Digits.hexValue? d
    return 16 * (16 * (16 * a + b) + c) + d
  | _ => none

variable (standIn : Char)

/-- The character of a numeric escape, after its `u` at `position`, and how many characters it
takes. Two escapes make one character where they are a pair of surrogates. At least one character
must follow the digits. -/
def unitEscape (position : Nat) (cs : List Char) : Except Nat (Char × Nat) :=
  if (cs.take 5).length < 5 then .error position
  else match hexUnit? (cs.take 4) with
    | none => .error position
    | some high =>
      match (cs.drop 4).take 6 with
      | ['\\', 'u', a, b, c, d] =>
        if Text.isHighSurrogate high && 10 < (cs.take 11).length then
          match hexUnit? [a, b, c, d] with
          | none => .error (position + 6)
          | some low =>
            if Text.isLowSurrogate low then .ok (Text.ofSurrogates high low, 10)
            else .ok (Text.ofCode standIn high, 4)
        else .ok (Text.ofCode standIn high, 4)
      | _ => .ok (Text.ofCode standIn high, 4)

def shortEscape? : Char → Option Char
  | '"' => some '"'
  | '\\' => some '\\'
  | '/' => some '/'
  | 'b' => some '\x08'
  | 'f' => some '\x0c'
  | 'n' => some '\n'
  | 'r' => some '\r'
  | 't' => some '\t'
  | _ => none

/-- The rest of a string whose opening quote stands at `start`, where `found` holds what was read
with the last character first and the next `skip` characters belong to an escape. -/
def stringFrom (start : Nat) (found : List Char) :
    (skip position : Nat) → List Char → Reading String
  | _, _, [] => .error (.malformed start)
  | skip + 1, position, _ :: cs => stringFrom start found skip (position + 1) cs
  | 0, position, '"' :: cs => .ok (String.ofList found.reverse, ⟨cs, position + 1⟩)
  | 0, position, '\\' :: cs =>
    match cs with
    | [] => .error (.malformed start)
    | 'u' :: digits =>
      match unitEscape standIn (position + 1) digits with
      | .error p => .error (.malformed p)
      | .ok (c, n) => stringFrom start (c :: found) (n + 1) (position + 1) cs
    | e :: _ =>
      match shortEscape? e with
      | none => .error (.malformed position)
      | some c => stringFrom start (c :: found) 1 (position + 1) cs
  | 0, position, c :: cs =>
    if c.toNat < 32 then .error (.malformed position)
    else stringFrom start (c :: found) 0 (position + 1) cs

/-- The text of a number in front of `cs` and whether it has a point or an exponent. -/
def numberText? (cs : List Char) : Option (List Char × Bool) := do
  let (sign, digits) := match cs with
    | '-' :: rest => (['-'], rest)
    | _ => ([], cs)
  let whole ← match digits with
    | '0' :: _ => some ['0']
    | c :: _ => if c.isDigit then some (digits.takeWhile Char.isDigit) else none
    | [] => none
  let rest := digits.drop whole.length
  let fraction := match rest with
    | '.' :: places =>
      let places := places.takeWhile Char.isDigit
      if places.isEmpty then [] else '.' :: places
    | _ => []
  let rest := rest.drop fraction.length
  let exponent := match rest with
    | e :: rest =>
      if e = 'e' ∨ e = 'E' then
        let sign := match rest with
          | c :: _ => if c = '+' ∨ c = '-' then [c] else []
          | [] => []
        let places := (rest.drop sign.length).takeWhile Char.isDigit
        if places.isEmpty then [] else e :: sign ++ places
      else []
    | [] => []
  return (sign ++ whole ++ fraction ++ exponent, !(fraction ++ exponent).isEmpty)

def number (c : Cursor) : Reading Json :=
  match numberText? c.rest with
  | none => .error (.malformed c.position)
  | some (digits, isFloat) =>
    let rest := c.advance digits.length
    if isFloat then .ok (float ((Binary64.parse? (String.ofList digits)).getD .nan), rest)
    else if Digits.longest < (digits.filter Char.isDigit).length then .error .longNumber
    else .ok (int ((Digits.int? digits).getD 0), rest)

/-- The words that stand for a value. -/
def wordValues : List (String × Json) :=
  [("null", null), ("true", bool true), ("false", bool false), ("NaN", float .nan),
   ("Infinity", float (.infinite false)), ("-Infinity", float (.infinite true))]

def word? (c : Cursor) : Option (Json × Cursor) :=
  (wordValues.find? fun (w, _) ↦ w.toList.isPrefixOf c.rest).map fun (w, v) ↦
    (v, c.advance w.length)

/-- Arrays and objects are nested no deeper than this. -/
def deepest : Nat := 970

mutual

/-- A value in which arrays and objects may be nested to the depth of `room`. Every call reads a
character or is followed by one that does, so twice the length of the text is fuel enough. -/
def value : (fuel room : Nat) → Cursor → Reading Json
  | 0, _, c => .error (.malformed c.position)
  | fuel + 1, room, c =>
    match c.rest, room with
    | '"' :: cs, _ =>
      (stringFrom standIn c.position [] 0 (c.position + 1) cs).map fun (s, c) ↦ (text s, c)
    | '[' :: _, 0 => .error .deepNesting
    | '[' :: cs, room + 1 =>
      let c := skipBlanksFrom (c.position + 1) cs
      match c.rest with
      | ']' :: cs => .ok (array [], ⟨cs, c.position + 1⟩)
      | _ => itemsFrom fuel room [] c
    | '\x7b' :: _, 0 => .error .deepNesting
    | '\x7b' :: cs, room + 1 =>
      let c := skipBlanksFrom (c.position + 1) cs
      match c.rest with
      | '\x7d' :: cs => .ok (object [], ⟨cs, c.position + 1⟩)
      | _ => membersFrom fuel room [] c
    | _, _ =>
      match word? c with
      | some result => .ok result
      | none => number c

/-- The items of an array after those in `found`, of which the last comes first. -/
def itemsFrom : (fuel room : Nat) → List Json → Cursor → Reading Json
  | 0, _, _, c => .error (.malformed c.position)
  | fuel + 1, room, found, c =>
    match value fuel room c with
    | .error e => .error e
    | .ok (v, c) =>
      let c := c.skipBlanks
      match c.rest with
      | ']' :: cs => .ok (array (v :: found).reverse, ⟨cs, c.position + 1⟩)
      | ',' :: cs => itemsFrom fuel room (v :: found) (skipBlanksFrom (c.position + 1) cs)
      | _ => .error (.malformed c.position)

def membersFrom : (fuel room : Nat) → List (String × Json) → Cursor → Reading Json
  | 0, _, _, c => .error (.malformed c.position)
  | fuel + 1, room, found, c =>
    match c.rest with
    | '"' :: cs =>
      match stringFrom standIn c.position [] 0 (c.position + 1) cs with
      | .error e => .error e
      | .ok (name, c) =>
        let c := c.skipBlanks
        match c.rest with
        | ':' :: cs =>
          match value fuel room (skipBlanksFrom (c.position + 1) cs) with
          | .error e => .error e
          | .ok (v, c) =>
            let c := c.skipBlanks
            match c.rest with
            | '\x7d' :: cs => .ok (ofReversed ((name, v) :: found), ⟨cs, c.position + 1⟩)
            | ',' :: cs =>
              membersFrom fuel room ((name, v) :: found) (skipBlanksFrom (c.position + 1) cs)
            | _ => .error (.malformed c.position)
        | _ => .error (.malformed c.position)
    | _ => .error (.malformed c.position)

end

/-- The value that a whole text denotes. -/
def parse (s : String) : Except ReadError Json :=
  let cs := s.toList
  match value standIn (2 * cs.length + 2) deepest (skipBlanksFrom 0 cs) with
  | .error e => .error e
  | .ok (v, c) =>
    let c := c.skipBlanks
    if c.rest.isEmpty then .ok v else .error (.malformed c.position)

end SqlRender.Json
