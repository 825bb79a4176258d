import SqlRender.Number.Decimal

namespace SqlRender

/-- A binary floating-point number of 64 bits: `significand * 2 ^ exponent` with a sign, where the
significand has 53 bits or the exponent is the least one, -1074. -/
inductive Binary64 where
  | nan
  | infinite (negative : Bool)
  | finite (negative : Bool) (significand : Nat) (exponent : Int)
  deriving DecidableEq

namespace Binary64

def IsFinite : Binary64 → Prop
  | finite .. => True
  | _ => False

instance : DecidablePred IsFinite
  | finite .. => isTrue trivial
  | infinite _ => isFalse id
  | nan => isFalse id

/-- The least significand of 53 bits. -/
def leastNormal : Nat := 4503599627370496

def leastExponent : Int := -1074

def greatestExponent : Int := 971

/-- The quotient rounded to the nearest whole number, a half to the even neighbour. -/
def roundedQuotient (num den : Nat) : Nat :=
  let q := num / den
  let twice := 2 * (num % den)
  if den < twice ∨ (twice = den ∧ q % 2 = 1) then q + 1 else q

/-- The quotient of `num` and `den * 2 ^ exponent`. -/
def roundedAt (num den : Nat) : Int → Nat
  | .ofNat e => roundedQuotient num (den * Nat.pow 2 e)
  | .negSucc e => roundedQuotient (num * Nat.pow 2 (e + 1)) den

/-- The nearest number to a positive quotient, a half to the even significand. -/
def ofQuotient (negative : Bool) (num den : Nat) : Binary64 :=
  let guess := max leastExponent ((num.log2 : Int) - den.log2 - 53)
  let exponent := if 2 * leastNormal ≤ roundedAt num den guess then guess + 1 else guess
  let significand := roundedAt num den exponent
  let (significand, exponent) :=
    if 2 * leastNormal ≤ significand then (significand / 2, exponent + 1)
    else (significand, exponent)
  if greatestExponent < exponent then infinite negative
  else finite negative significand exponent

/-- Magnitudes of `10 ^ 400` and more are infinite, those below `10 ^ -400` are zero. -/
def ofDecimal : Decimal → Binary64
  | .nan .. => nan
  | .infinite neg => infinite neg
  | .finite neg digits exponent =>
    let leading := Decimal.leadingExponent digits exponent
    if digits = 0 ∨ leading < -400 then finite neg 0 leastExponent
    else if 400 < leading then infinite neg
    else match exponent with
      | .ofNat e => ofQuotient neg (digits * Nat.pow 10 e) 1
      | .negSucc e => ofQuotient neg digits (Nat.pow 10 (e + 1))

/-- The number nearest to the decimal that a text denotes. -/
def parse? (s : String) : Option Binary64 :=
  (Decimal.parse? s).map ofDecimal

/-- A number is a whole number where no fraction is left after its point. -/
def toInt? : Binary64 → Option Int
  | finite neg m e =>
    let magnitude : Option Nat := match e with
      | .ofNat e => some (m * Nat.pow 2 e)
      | .negSucc e => if m % Nat.pow 2 (e + 1) = 0 then some (m / Nat.pow 2 (e + 1)) else none
    magnitude.map fun n ↦ if neg then -(n : Int) else n
  | _ => none

end Binary64

end SqlRender
