import Transcript.Decimal.Numeral
import Transcript.Text.Blank
import Transcript.Validation.Checked

namespace Transcript.Validation

/-- The words for the two truth values, in lower case. -/
def trueWords : List String := ["true", "t", "yes", "y", "on", "1"]
def falseWords : List String := ["false", "f", "no", "n", "off", "0"]

/-- The truth value that a word stands for, whatever its case. -/
def flagOfWord (word : String) : Checked Bool :=
  let lower := word.toLower
  if trueWords.contains lower then .valid true
  else if falseWords.contains lower then .valid false
  else .fail .boolParsing

/-- No two underscores stand beside each other. -/
def singleUnderscores : List Char → Bool
  | '_' :: '_' :: _ => false
  | _ :: rest => singleUnderscores rest
  | [] => true

/-- A number without its underscores, which stand inside it and one at a time; otherwise
they stay. -/
def ungrouped (chars : List Char) : List Char :=
  if chars.head? == some '_' || chars.getLast? == some '_' || !singleUnderscores chars then chars
  else chars.filter (· != '_')

/-- An integer without underscores and without a fraction of zeros. -/
def bareInteger (chars : List Char) : List Char :=
  let fraction := chars.dropWhile (· != '.')
  if 1 < fraction.length && (fraction.drop 1).all (· == '0') then
    ungrouped (chars.takeWhile (· != '.'))
  else ungrouped chars

/-- The natural that digits spell. Behind too many digits nothing is looked at any more. -/
def naturalOfDigits (chars : List Char) : Checked Nat :=
  if Decimal.integerLimit < (chars.takeWhile Decimal.isDigit).length then .fail .intParsingSize
  else if !chars.isEmpty && chars.all Decimal.isDigit then .valid (Decimal.digitsValue chars)
  else .fail .intParsing

def positive (digits : List Char) : Checked Int := Int.ofNat <$> naturalOfDigits digits

def negative (digits : List Char) : Checked Int :=
  (fun size : Nat => -(size : Int)) <$> naturalOfDigits digits

/-- What counts of an integer that starts with a zero: all zeros in front are dropped, with
any underscores among them. When no digit and no minus follows, the last of them stays. -/
def significant (chars : List Char) : List Char :=
  let front := chars.takeWhile fun c => c = '0' || c = '_'
  let rest := chars.drop front.length
  if chars.head? != some '0' then chars
  else if rest.head?.any fun c => Decimal.isDigit c || c = '-' then rest
  else chars.drop (front.length - 1)

/-- An integer without a sign in front. A minus may still stand behind its zeros, and no
further zeros behind that minus. -/
def unsignedInteger (chars : List Char) : Checked Int :=
  match bareInteger (significant chars) with
  | '-' :: digits =>
    if chars.head? == some '0' && (digits.length = 1 || digits.head? != some '0') then
      negative digits
    else .fail .intParsing
  | digits => positive digits

/-- The integer that characters spell, perhaps with a sign. -/
def integerOfChars : List Char → Checked Int
  | '-' :: unsigned => negative (bareInteger (significant unsigned))
  | '+' :: unsigned => unsignedInteger unsigned
  | chars => unsignedInteger chars

/-- The integer that a text spells. -/
def integerOfText (content : String) : Checked Int :=
  integerOfChars (Text.trimChars Text.isWhiteSpace content.toList)

/-- The value that a word without digits names, in any case. -/
def specialFloat? (word : List Char) : Option Float :=
  let lower := word.map Char.toLower
  if lower = ['i', 'n', 'f'] || lower = "infinity".toList then some Decimal.infinity
  else if lower = ['n', 'a', 'n'] then some Decimal.notANumber
  else none

/-- The float that characters spell: positional or exponent notation with at least one
digit, or a named value, perhaps with a sign. -/
def plainFloat? (chars : List Char) : Option Float :=
  let (sign, unsigned) := Decimal.takeSign chars
  match specialFloat? unsigned with
  | some special => some (if sign == some '-' then -special else special)
  | none => do
    let numeral ← Decimal.Numeral.split? chars
    guard !(numeral.whole ++ numeral.fraction.getD []).isEmpty
    guard (numeral.exponent.all fun exponent => !exponent.2.isEmpty)
    return numeral.toFloat

/-- The float that a text spells: with white space around it or with underscores inside, but
not with both. -/
def floatOfText? (content : String) : Option Float :=
  let chars := content.toList
  (plainFloat? (Text.trimChars Text.isWhiteSpace chars)).or (plainFloat? (ungrouped chars))

end Transcript.Validation
