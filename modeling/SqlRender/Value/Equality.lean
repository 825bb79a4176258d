import SqlRender.Node.Display

namespace SqlRender

/-- Numbers of all kinds are compared by value. -/
inductive Magnitude where
  | nan
  | infinite (negative : Bool)
  /-- A numerator over a positive denominator. -/
  | ratio (num : Int) (den : Nat)

namespace Magnitude

def ofScaled (negative : Bool) (digits base : Nat) : Int → Magnitude
  | .ofNat e => ratio ((if negative then -1 else 1) * (digits * base.pow e : Nat)) 1
  | .negSucc e => ratio ((if negative then -1 else 1) * digits) (base.pow (e + 1))

def ofScalar? : Scalar → Option Magnitude
  | .bool b => some (ratio (if b then 1 else 0) 1)
  | .int n => some (ratio n 1)
  | .float .nan => some nan
  | .float (.infinite neg) => some (infinite neg)
  | .float (.finite neg significand e) => some (ofScaled neg significand 2 e)
  | .decimal (.nan ..) => some nan
  | .decimal (.infinite neg) => some (infinite neg)
  | .decimal (.finite neg digits e) => some (ofScaled neg digits 10 e)
  | _ => none

def same : Magnitude → Magnitude → Bool
  | infinite a, infinite b => a = b
  | ratio n d, ratio n' d' => n * d' = n' * d
  | _, _ => false

end Magnitude

/-- Two scalars are one key: numbers of one value (NaN equals nothing), bytes of one content,
times of one instant, all else if it is the same. -/
def Scalar.same (a b : Scalar) : Bool :=
  match Magnitude.ofScalar? a, Magnitude.ofScalar? b with
  | some x, some y => x.same y
  | _, _ =>
    match a, b with
    | .bytes _ x, .bytes _ y => x = y
    | .datetime t, .datetime u => t.offset.isSome = u.offset.isSome && t.instant = u.instant
    | .time t, .time u => t.offset.isSome = u.offset.isSome && t.instant = u.instant
    | _, _ => a = b

namespace Value

mutual

/-- Two values are one key of a mapping. Nodes are one key if they are quoted alike. -/
def same : Value → Value → Bool
  | scalar a, scalar b => a.same b
  | collection kind xs, collection kind' ys => kind = kind' && sameAll xs ys
  | mapping xs, mapping ys => sameEntries xs ys
  | node a, node b => a.display = b.display
  | _, _ => false

def sameAll : List Value → List Value → Bool
  | [], [] => true
  | x :: xs, y :: ys => x.same y && sameAll xs ys
  | _, _ => false

def sameEntries : List (Value × Value) → List (Value × Value) → Bool
  | [], [] => true
  | (k, v) :: xs, (k', v') :: ys => k.same k' && v.same v' && sameEntries xs ys
  | _, _ => false

end

/-- A repeated key keeps its first place and form and takes the new value. -/
def insertEntry (key value : Value) : List (Value × Value) → List (Value × Value)
  | [] => [(key, value)]
  | (k, v) :: rest =>
    if k.same key then (k, value) :: rest else (k, v) :: insertEntry key value rest

def mappingOf (entries : List (Value × Value)) : Value :=
  mapping (entries.foldl (fun acc (k, v) ↦ insertEntry k v acc) [])

/-- Of equal members the first one stays. -/
def distinctMembers (members : List Value) : List Value :=
  members.foldl (fun acc v ↦ if acc.any (same · v) then acc else acc ++ [v]) []

end Value

end SqlRender
