import Transcript.Decimal.Binary

namespace Transcript.Decimal

def isDigit (c : Char) : Bool := '0' ≤ c && c ≤ '9'

/-- The natural that decimal digits spell. -/
def digitsValue (digits : List Char) : Nat :=
  digits.foldl (fun value c => value * 10 + (c.toNat - '0'.toNat)) 0

/-- The most digits that an integer may be spelled with. -/
def integerLimit : Nat := 4300

/-- An integer of more digits is not spelled out. -/
def isSpellable (number : Int) : Bool := (Nat.toDigits 10 number.natAbs).length ≤ integerLimit

/-- What is said of an integer that is not spelled out. -/
def unspellableMessage : String :=
  "Exceeds the limit (" ++ toString integerLimit ++ " digits) for integer string conversion; " ++
    "use sys.set_int_max_str_digits() to increase the limit"

/-- The parts of a number: its sign, the digits before and after the point, and the sign
and digits of the exponent. -/
structure Numeral where
  sign : Option Char
  whole : List Char
  fraction : Option (List Char)
  exponent : Option (Option Char × List Char)
deriving DecidableEq, Repr

/-- A leading sign, if there is one, and what follows it. -/
def takeSign : List Char → Option Char × List Char
  | '-' :: rest => (some '-', rest)
  | '+' :: rest => (some '+', rest)
  | chars => (none, chars)

/-- The digits after a point, if a point comes first, and what follows them. -/
def takeFraction : List Char → Option (List Char) × List Char
  | '.' :: rest => (some (rest.takeWhile isDigit), rest.dropWhile isDigit)
  | chars => (none, chars)

/-- An exponent that takes up the whole text; nothing else may stand there. -/
def takeExponent? : List Char → Option (Option (Option Char × List Char))
  | [] => some none
  | c :: rest =>
    let (sign, digits) := takeSign rest
    if (c = 'e' || c = 'E') && digits.all isDigit then some (some (sign, digits)) else none

/-- Split a whole text into the parts of a number. -/
def Numeral.split? (chars : List Char) : Option Numeral :=
  let (sign, unsigned) := takeSign chars
  let whole := unsigned.takeWhile isDigit
  let (fraction, rest) := takeFraction (unsigned.dropWhile isDigit)
  (takeExponent? rest).map fun exponent => ⟨sign, whole, fraction, exponent⟩

def Numeral.negative (numeral : Numeral) : Bool := numeral.sign == some '-'

/-- The power of ten that an exponent part names. -/
def Numeral.power (numeral : Numeral) : Int :=
  match numeral.exponent with
  | none => 0
  | some (sign, digits) =>
    if sign == some '-' then -(digitsValue digits : Int) else digitsValue digits

/-- The float nearest to `mantissa * 10 ^ power`. Powers far outside the range of floats
are settled by the number of digits alone. -/
def nearest (mantissa : Nat) (power : Int) : Float :=
  let reach := power + (Nat.log2 mantissa / 3 : Nat)
  if mantissa = 0 || reach < -420 then 0.0
  else if power > 330 then Float.ofScientific 1 false 400
  else Float.ofScientific mantissa (power < 0) power.natAbs

/-- The float that the parts spell. -/
def Numeral.toFloat (numeral : Numeral) : Float :=
  let fraction := numeral.fraction.getD []
  let size := nearest (digitsValue (numeral.whole ++ fraction)) (numeral.power - fraction.length)
  if numeral.negative then -size else size

/-- The integer that the digits before the point spell. -/
def Numeral.toInt (numeral : Numeral) : Int :=
  let size : Int := digitsValue numeral.whole
  if numeral.negative then -size else size

end Transcript.Decimal
