import Transcript.Value

/-! Which worker a key belongs to. Keys that are equal belong to the same worker, so the
number of a key depends on the number it stands for and not on its sort. -/

namespace Transcript.Value

/-- The prime that numbers are reduced by. -/
def keyModulus : Nat := Nat.pow 2 61 - 1

/-- The power of a base, reduced by the key modulus, for an exponent of at most `fuel` bits. -/
def powerModulo (base : Nat) : Nat → Nat → Nat
  | 0, _ => 1
  | fuel + 1, exponent =>
    let half := powerModulo (base * base % keyModulus) fuel (exponent / 2)
    if exponent % 2 = 1 then base * half % keyModulus else half

/-- The inverse of a number modulo the key modulus, which is prime. -/
def inverseModulo (number : Nat) : Nat := powerModulo (number % keyModulus) 61 (keyModulus - 2)

/-- A size with its sign; minus one is kept free and becomes minus two. -/
def signedNumber (negative : Bool) (size : Nat) : Int :=
  let number : Int := if negative then -(size : Int) else size
  if number = -1 then -2 else number

def integerNumber (number : Int) : Int := signedNumber (number < 0) (number.natAbs % keyModulus)

/-- The number of a float: its magnitude modulo the key modulus. -/
def floatNumber (number : Float) : Int :=
  match Decimal.Kind.ofFloat number with
  | .finite negative magnitude =>
    let unit :=
      if 0 ≤ magnitude.q then powerModulo 2 61 magnitude.q.toNat
      else inverseModulo (powerModulo 2 61 (-magnitude.q).toNat)
    signedNumber negative (magnitude.m % keyModulus * unit % keyModulus)
  | .infinite negative => if negative then -314159 else 314159
  | .nan => 0

mutual
/-- The sort that keeps a value from being a key, if there is one: a container that may
change cannot be a key, and neither can a tuple that holds one. -/
def unhashable? : Value → Option String
  | .list _ | .cyclicList => some "list"
  | .mapping _ | .cyclicMapping => some "dict"
  | .set _ => some "set"
  | .tuple items => unhashableItem? items
  | _ => none

def unhashableItem? : List Value → Option String
  | [] => none
  | item :: rest => (unhashable? item).or (unhashableItem? rest)
end

/-- The number of a key. Only numbers and truth values are spread over several workers. -/
def keyNumber : Value → Int
  | .bool flag => integerNumber (if flag then 1 else 0)
  | .int number => integerNumber number
  | .float number => floatNumber number
  | _ => 0

/-- The lane of a key among a number of lanes when `spread` gives keys their numbers, or the
sort that keeps it from having one. -/
def lane (key : Value) (spread : Value → Int) (lanes : Nat) : Except String Nat :=
  match key.unhashable? with
  | some kind => .error kind
  | none => .ok ((spread key).emod lanes).toNat

end Transcript.Value
