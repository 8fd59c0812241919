import Transcript.Decimal.Numeral
import Transcript.Json
import Transcript.Json.Escape

namespace Transcript.Json

inductive Token where
  | openArray
  | closeArray
  | openObject
  | closeObject
  | comma
  | colon
  | text (content : String)
  | atom (value : Json)

/-- The mark that a character is. -/
def mark? : Char → Option Token
  | '[' => some .openArray
  | ']' => some .closeArray
  | '\x7b' => some .openObject
  | '\x7d' => some .closeObject
  | ',' => some .comma
  | ':' => some .colon
  | _ => none

/-- White space between tokens. -/
def isGap (c : Char) : Bool := c = ' ' || c = '\t' || c = '\n' || c = '\r'

/-- The number that a word spells: digits without a leading zero, perhaps after a minus;
digits behind every point and exponent. Without point and exponent it is an integer. What
stands before the point may not be longer than the longest integer. -/
def number? (chars : List Char) : Option Json := do
  let numeral ← Decimal.Numeral.split? chars
  guard (numeral.sign != some '+')
  guard (numeral.whole == ['0'] || (!numeral.whole.isEmpty && numeral.whole.head? != some '0'))
  guard (numeral.whole.length ≤ Decimal.integerLimit)
  guard (numeral.fraction != some [])
  guard (numeral.exponent.all fun exponent => !exponent.2.isEmpty)
  if numeral.fraction.isNone && numeral.exponent.isNone then return .int numeral.toInt
  else return .float numeral.toFloat

/-- The constants and numbers that a bare word spells. The three values that are no
numbers are accepted beyond the standard. -/
def word? (chars : List Char) : Option Json :=
  if chars = ['t', 'r', 'u', 'e'] then some (.bool true)
  else if chars = ['f', 'a', 'l', 's', 'e'] then some (.bool false)
  else if chars = ['n', 'u', 'l', 'l'] then some .null
  else if chars = ['N', 'a', 'N'] then some (.float Decimal.notANumber)
  else if chars = "Infinity".toList then some (.float Decimal.infinity)
  else if chars = "-Infinity".toList then some (.float (-Decimal.infinity))
  else number? chars

/-- Where the tokenizer stands: between tokens, in a word, or in a text. What was read of
the current token is kept backwards. -/
inductive Scan where
  | gap
  | word (read : List Char)
  | quoted (read : List Char)
  | quotedEscape (read : List Char)

def wordToken? (read : List Char) : Option Token := (word? read.reverse).map .atom

def textToken? (read : List Char) : Option Token :=
  (Escape.decode? read.reverse).map fun chars => .text (String.ofList chars)

/-- The tokens of a text, from where the tokenizer stands. -/
def tokensFrom : Scan → List Char → Option (List Token)
  | .gap, [] => some []
  | .word read, [] => (wordToken? read).map ([·])
  | .quoted _, [] | .quotedEscape _, [] => none
  | .gap, c :: rest =>
    if isGap c then tokensFrom .gap rest
    else if c = '"' then tokensFrom (.quoted []) rest
    else match mark? c with
      | some mark => (mark :: ·) <$> tokensFrom .gap rest
      | none => tokensFrom (.word [c]) rest
  | .word read, c :: rest =>
    if isGap c then
      match wordToken? read with
      | none => none
      | some token => (token :: ·) <$> tokensFrom .gap rest
    else if c = '"' then none
    else match mark? c with
      | some mark =>
        match wordToken? read with
        | none => none
        | some token => (token :: mark :: ·) <$> tokensFrom .gap rest
      | none => tokensFrom (.word (c :: read)) rest
  | .quoted read, c :: rest =>
    if c = '"' then
      match textToken? read with
      | none => none
      | some token => (token :: ·) <$> tokensFrom .gap rest
    else if c = '\\' then tokensFrom (.quotedEscape (c :: read)) rest
    else tokensFrom (.quoted (c :: read)) rest
  | .quotedEscape read, c :: rest => tokensFrom (.quoted (c :: read)) rest

def tokens? (chars : List Char) : Option (List Token) := tokensFrom .gap chars

end Transcript.Json
