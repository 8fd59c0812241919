/-! Binary floating-point values as exact numbers: a finite value is a signed natural
times a power of two, so questions about it are questions about naturals. -/

namespace Transcript.Decimal

/-- The magnitude `m * 2 ^ q` of a finite value. -/
structure Binary where
  m : Nat
  q : Int
  /-- The gap to the value below is half the gap to the value above. -/
  narrowBelow : Bool
deriving DecidableEq, Repr

/-- What the bits of a floating-point number stand for. -/
inductive Kind where
  | finite (negative : Bool) (magnitude : Binary)
  | infinite (negative : Bool)
  | nan
deriving DecidableEq, Repr

/-- The magnitude that an exponent field and a fraction field spell. -/
def Binary.ofFields (exponent fraction : Nat) : Binary :=
  if exponent = 0 then ⟨fraction, -1074, false⟩
  else ⟨Nat.pow 2 52 + fraction, (exponent : Int) - 1075, fraction == 0 && exponent > 1⟩

def Kind.ofBits (bits : UInt64) : Kind :=
  let negative := bits >>> 63 == 1
  let exponent := ((bits >>> 52) &&& 0x7FF).toNat
  let fraction := (bits &&& 0xFFFFFFFFFFFFF).toNat
  if exponent = 0x7FF then
    if fraction = 0 then .infinite negative else .nan
  else .finite negative (.ofFields exponent fraction)

def Kind.ofFloat (number : Float) : Kind := .ofBits number.toBits

/-- The magnitude as a natural, when it has no fraction. -/
def Binary.toNat? (value : Binary) : Option Nat :=
  if 0 ≤ value.q then some (value.m * Nat.pow 2 value.q.toNat)
  else
    let unit := Nat.pow 2 (-value.q).toNat
    if value.m % unit = 0 then some (value.m / unit) else none

/-- The integer that a float equals, if there is one. -/
def integer? (number : Float) : Option Int :=
  match Kind.ofFloat number with
  | .finite negative magnitude =>
    magnitude.toNat?.map fun n => if negative then -(n : Int) else n
  | _ => none

def isFinite (number : Float) : Bool :=
  match Kind.ofFloat number with
  | .finite .. => true
  | _ => false

/-- The floats that are no finite number. -/
def infinity : Float := 1.0 / 0.0
def notANumber : Float := 0.0 / 0.0

/-- The float nearest to an integer, or nothing when its magnitude rounds past the largest. -/
def ofInt? (number : Int) : Option Float :=
  let nearest := Float.ofScientific number.natAbs false 0
  if isFinite nearest then some (if number < 0 then -nearest else nearest) else none

end Transcript.Decimal
