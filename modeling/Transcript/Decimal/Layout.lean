import Transcript.Decimal.Shortest

namespace Transcript.Decimal

/-- The decisions of a number format. A number whose leading digit has an exponent between
`plainFrom` and `plainBelow` is written positionally, any other with an exponent of at
least `exponentWidth` digits that always shows its sign. -/
structure Layout where
  plainFrom : Int
  plainBelow : Int
  exponentWidth : Nat

/-- Numbers in log texts, in keys and in compact payload text: positional from
`0.0001` below `10 ^ 16`, exponents of two digits at least. -/
def Layout.padded : Layout where
  plainFrom := -4
  plainBelow := 16
  exponentWidth := 2

/-- Numbers in stored documents: positional from `0.00001` below `10 ^ 16`, exponents
as short as they are. -/
def Layout.stored : Layout where
  plainFrom := -5
  plainBelow := 16
  exponentWidth := 1

/-- Digits with the point after the first `places` of them. -/
def withPoint (places : Nat) (digits : List Char) : List Char :=
  digits.take places ++ '.' :: digits.drop places

/-- A signed exponent of at least a given width. -/
def exponentChars (width : Nat) (exponent : Int) : List Char :=
  let digits := Nat.toDigits 10 exponent.natAbs
  (if exponent < 0 then '-' else '+') :: (List.replicate (width - digits.length) '0' ++ digits)

/-- Lay out a decimal without sign. A positional number always shows a point with a digit
on either side; a number with an exponent shows a point only before further digits. -/
def Layout.chars (layout : Layout) (decimal : Scaled) : List Char :=
  let digits := Nat.toDigits 10 decimal.digits
  let leading := if decimal.digits = 0 then 0 else decimal.exponent + (digits.length : Int) - 1
  if layout.plainFrom ≤ leading ∧ leading < layout.plainBelow then
    if leading < 0 then
      '0' :: '.' :: (List.replicate (leading.natAbs - 1) '0' ++ digits)
    else
      let places := leading.toNat + 1
      if digits.length ≤ places then
        digits ++ List.replicate (places - digits.length) '0' ++ ['.', '0']
      else withPoint places digits
  else
    (if digits.length = 1 then digits else withPoint 1 digits) ++
      'e' :: exponentChars layout.exponentWidth leading

/-- A finite magnitude with its sign. -/
def Layout.signed (layout : Layout) (negative : Bool) (magnitude : Binary) : List Char :=
  let chars := layout.chars magnitude.shortest
  if negative then '-' :: chars else chars

/-- The characters of a float, with the given texts for the values that are no number. -/
def Layout.float (layout : Layout) (infinity nan : List Char) (number : Float) : List Char :=
  match Kind.ofFloat number with
  | .finite negative magnitude => layout.signed negative magnitude
  | .infinite negative => if negative then '-' :: infinity else infinity
  | .nan => nan

/-- A float as log texts show it. -/
def shown (number : Float) : String :=
  String.ofList (Layout.padded.float ['i', 'n', 'f'] ['n', 'a', 'n'] number)

end Transcript.Decimal
