import SqlRender.Text.Blank
import SqlRender.Text.Digits

namespace SqlRender.WholeNumber

/-- Why a text is no whole number. -/
inductive Defect where
  | malformed
  | tooLong
  deriving DecidableEq

/-- The number of a text with a minus sign at most and no zero in front of other digits. Its length
is that of the sign and the digits in front of all else. -/
def ofExact (cs : List Char) : Except Defect Int :=
  let (isNegative, digits) := match cs with
    | '-' :: rest => (true, rest)
    | _ => (false, cs)
  let run := digits.takeWhile Char.isDigit
  match digits with
  | [] => .error .malformed
  | ['0'] => .ok 0
  | '0' :: _ => .error .malformed
  | _ =>
    if Digits.longest < cs.length - digits.length + run.length then .error .tooLong
    else if run.length < digits.length then .error .malformed
    else .ok (if isNegative then -Int.ofNat (Digits.value run) else Int.ofNat (Digits.value run))

def isLeadingDigit (c : Char) : Bool := '1' ≤ c && c ≤ '9'

/-- What follows zeros and underscores, of which `last` is the last one. It stays in front of a
point and where nothing follows. -/
def afterZeros (last : Char) : List Char → Option (List Char)
  | [] => some [last]
  | c :: cs =>
    if c = '0' ∨ c = '_' then afterZeros c cs
    else if isLeadingDigit c ∨ c = '-' then some (c :: cs)
    else if c = '.' then some (last :: c :: cs)
    else none

/-- Digits without the zeros in front of them. -/
def withoutZeros : List Char → Option (List Char)
  | [] => none
  | c :: cs =>
    if c = '0' then afterZeros c cs
    else if isLeadingDigit c then some (c :: cs)
    else none

/-- A minus sign stays where the zeros behind it are left out. -/
def withoutLeadingZeros : List Char → Option (List Char)
  | '-' :: cs => (withoutZeros cs).map ('-' :: ·)
  | cs => withoutZeros cs

/-- A fraction of zeros only is left out. -/
def withoutFraction (cs : List Char) : List Char :=
  let fraction := cs.dropWhile (· ≠ '.')
  if 1 < fraction.length ∧ (fraction.drop 1).all (· = '0') then cs.takeWhile (· ≠ '.') else cs

/-- No underscore stands at an end or beside another one. -/
def areUnderscoresApart (cs : List Char) : Bool :=
  cs.head? ≠ some '_' && cs.getLast? ≠ some '_' && !(cs.zip cs.tail).contains ('_', '_')

def withoutUnderscores (cs : List Char) : List Char :=
  if areUnderscoresApart cs then cs.filter (· ≠ '_') else cs

/-- A plus sign is left out, but not in front of a minus sign. -/
def withoutPlus : List Char → Option (List Char)
  | '+' :: '-' :: _ => none
  | '+' :: cs => some cs
  | cs => some cs

/-- The exact form of a number with blanks around it, a plus sign, zeros in front, a fraction of
zeros or underscores between its digits. -/
def exactForm (cs : List Char) : Option (List Char) := do
  let cs ← withoutPlus (Text.trimmed Text.isWhiteSpace cs)
  let cs ← withoutLeadingZeros cs
  return withoutUnderscores (withoutFraction cs)

def read (s : String) : Except Defect Int :=
  match ofExact s.toList, exactForm s.toList with
  | .error .malformed, some cs => ofExact cs
  | result, _ => result

end SqlRender.WholeNumber
