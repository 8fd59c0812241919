import Transcript.Decimal.Binary

namespace Transcript.Decimal

/-- The decimal number `digits * 10 ^ exponent`. -/
structure Scaled where
  digits : Nat
  exponent : Int
deriving DecidableEq, Repr

/-- Compare `a * 10 ^ i` with `n * 2 ^ j`. -/
def compareScaled (a : Nat) (i : Int) (n : Nat) (j : Int) : Ordering :=
  compare (a * Nat.pow 10 i.toNat * Nat.pow 2 (-j).toNat)
    (n * Nat.pow 2 j.toNat * Nat.pow 10 (-i).toNat)

/-- A decimal reads back to a magnitude when it lies among the reals that round to it:
up to half way to either neighbour, the ends included when `m` is even. -/
def Binary.readsBack (value : Binary) (decimal : Scaled) : Bool :=
  let low := if value.narrowBelow then 4 * value.m - 1 else 4 * value.m - 2
  let high := 4 * value.m + 2
  let closed := value.m % 2 == 0
  let below := compareScaled decimal.digits decimal.exponent low (value.q - 2)
  let above := compareScaled decimal.digits decimal.exponent high (value.q - 2)
  (below == .gt || (closed && below == .eq)) && (above == .lt || (closed && above == .eq))

/-- The least `k` with `m * 2 ^ q < 10 ^ k`, sought around the estimate from the length of `m`. -/
def Binary.scale (value : Binary) : Int :=
  let estimate := (((value.m.log2 : Int) + value.q) * 30103).fdiv 100000
  let fits (k : Int) : Bool := compareScaled 1 k value.m value.q == .gt
  if fits (estimate - 1) then estimate - 1
  else if fits estimate then estimate
  else if fits (estimate + 1) then estimate + 1
  else estimate + 2

/-- The largest multiple of `10 ^ g` that does not exceed the magnitude, in that unit. -/
def Binary.floorAt (value : Binary) (g : Int) : Nat :=
  (value.m * Nat.pow 2 value.q.toNat * Nat.pow 10 (-g).toNat) /
    (Nat.pow 10 g.toNat * Nat.pow 2 (-value.q).toNat)

/-- On the grid of `10 ^ g`, the neighbour of the magnitude that reads back; of two the
nearer, and of two equally near the even one. -/
def Binary.onGrid? (value : Binary) (g : Int) : Option Scaled :=
  let low := value.floorAt g
  let lower : Scaled := ⟨low, g⟩
  let upper : Scaled := ⟨low + 1, g⟩
  match value.readsBack lower, value.readsBack upper with
  | true, true =>
    match compareScaled (2 * low + 1) g (2 * value.m) value.q with
    | .gt => some lower
    | .lt => some upper
    | .eq => if low % 2 = 0 then some lower else some upper
  | true, false => some lower
  | false, true => some upper
  | false, false => none

/-- Move trailing zeros of the digits into the exponent. -/
def stripZeros : Nat → Scaled → Scaled
  | 0, decimal => decimal
  | fuel + 1, decimal =>
    if decimal.digits % 10 = 0 then stripZeros fuel ⟨decimal.digits / 10, decimal.exponent + 1⟩
    else decimal

/-- The exact decimal of a magnitude. -/
def Binary.exact (value : Binary) : Scaled :=
  if 0 ≤ value.q then ⟨value.m * Nat.pow 2 value.q.toNat, 0⟩
  else ⟨value.m * Nat.pow 5 (-value.q).toNat, value.q⟩

/-- The shortest decimal that reads back; zero is its own. Grids are tried from one digit
to seventeen. -/
def Binary.shortest (value : Binary) : Scaled :=
  if value.m = 0 then ⟨0, 0⟩
  else
    let scale := value.scale
    let found := (List.range 17).findSome? fun (n : Nat) => value.onGrid? (scale - (n + 1))
    stripZeros 400 (found.getD value.exact)

end Transcript.Decimal
