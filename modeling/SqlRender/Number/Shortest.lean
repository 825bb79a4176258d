import SqlRender.Number.Binary64

namespace SqlRender.Binary64

/-- The reals that round to one positive number, as `[low, high] * unitNum / unitDen` with the
number itself at `mid`; the ends belong to it where the significand is even. -/
structure Interval where
  low : Nat
  mid : Nat
  high : Nat
  unitNum : Nat
  unitDen : Nat
  closed : Bool

/-- Below a power of two the numbers lie twice as close as above it. -/
def interval (significand : Nat) (exponent : Int) : Interval :=
  let below := if significand = leastNormal ∧ exponent ≠ leastExponent then 1 else 2
  { low := 4 * significand - below
    mid := 4 * significand
    high := 4 * significand + 2
    unitNum := Nat.pow 2 (exponent - 2).toNat
    unitDen := Nat.pow 2 (2 - exponent).toNat
    closed := significand % 2 = 0 }

namespace Interval

/-- The same reals counted in units of `10 ^ grid`. -/
def onGrid (i : Interval) (grid : Int) : Interval :=
  { i with
    unitNum := i.unitNum * Nat.pow 10 (-grid).toNat
    unitDen := i.unitDen * Nat.pow 10 grid.toNat }

def contains (i : Interval) (n : Nat) : Bool :=
  if i.closed then i.low * i.unitNum ≤ n * i.unitDen && n * i.unitDen ≤ i.high * i.unitNum
  else i.low * i.unitNum < n * i.unitDen && n * i.unitDen < i.high * i.unitNum

def floor (i : Interval) : Nat := i.mid * i.unitNum / i.unitDen

/-- Of the whole numbers on both sides of the middle the one in the interval; of two the nearer,
and halfway between them the even one. -/
def nearest? (i : Interval) : Option Nat :=
  let n := i.floor
  match i.contains n, i.contains (n + 1) with
  | true, true =>
    let twice := 2 * (i.mid * i.unitNum - n * i.unitDen)
    if twice < i.unitDen ∨ (twice = i.unitDen ∧ n % 2 = 0) then some n else some (n + 1)
  | true, false => some n
  | false, true => some (n + 1)
  | false, false => none

/-- How many digits stand in front of the point, negative where zeros follow the point. -/
def wholeDigits (i : Interval) : Int :=
  (toString (i.onGrid (-330)).floor).length - 330

/-- The first hit on the grids that leave `count`, `count + 1`, … digits of the number. -/
def search (i : Interval) : Nat → Nat → Nat × Int
  | 0, count => ((i.onGrid (i.wholeDigits - count)).floor, i.wholeDigits - count)
  | fuel + 1, count =>
    match (i.onGrid (i.wholeDigits - count)).nearest? with
    | some n => (n, i.wholeDigits - count)
    | none => i.search fuel (count + 1)

end Interval

/-- Zeros at the end of `n` go into the exponent. -/
def withoutTrailingZeros : Nat → Nat → Int → Nat × Int
  | 0, n, e => (n, e)
  | fuel + 1, n, e =>
    if n ≠ 0 ∧ n % 10 = 0 then withoutTrailingZeros fuel (n / 10) (e + 1) else (n, e)

/-- The fewest decimal digits that read back as the number, and the exponent of ten of the last
one; 17 digits always suffice. -/
def shortest (significand : Nat) (exponent : Int) : Nat × Int :=
  if significand = 0 then (0, 0)
  else
    let (n, e) := (interval significand exponent).search 17 1
    withoutTrailingZeros 17 n e

/-- Magnitudes from `10 ^ -4` to below `10 ^ 16` are written without an exponent. -/
def isPositional (digits : Nat) (exponent : Int) : Bool :=
  let leading := Decimal.leadingExponent digits exponent
  decide (-4 ≤ leading ∧ leading < 16)

/-- The decimal that is written for a number: the shortest digits, and at least one place after
the point where no exponent is written. -/
def toDecimal : Binary64 → Decimal
  | nan => .nan false false 0
  | infinite neg => .infinite neg
  | finite neg significand exponent =>
    let (n, e) := shortest significand exponent
    if isPositional n e ∧ 0 ≤ e then .finite neg (n * Nat.pow 10 (e.toNat + 1)) (-1)
    else .finite neg n e

/-- The shortest text that reads back as the number. -/
def toText (x : Binary64) : String :=
  match x.toDecimal with
  | .nan .. => "nan"
  | .infinite neg => Decimal.sign neg ++ "inf"
  | .finite neg n e =>
    let leading := Decimal.leadingExponent n e
    if isPositional n e then Decimal.plain neg n e
    else
      Decimal.sign neg ++ Decimal.mantissa n ++ (if leading < 0 then "e-" else "e+")
        ++ Digits.padded 2 leading.natAbs

end SqlRender.Binary64
