import Mathlib.Data.ENat.Basic
import Transcript.Json.Token

/-! The grammar of JSON texts, independent of how they are read and written: which characters
spell which document. Numbers may be required to have no more than some digits before the
point; apart from that every text of the standard belongs to it, except that half a surrogate
pair stands for nothing. -/

namespace Transcript

namespace Decimal

/-- One decimal digit at least, and nothing else. -/
structure IsDigits (chars : List Char) : Prop where
  some : chars ≠ []
  digits : ∀ c ∈ chars, isDigit c = true

namespace Numeral

def fractionChars (numeral : Numeral) : List Char := numeral.fraction.elim [] ('.' :: ·)

def exponentChars (numeral : Numeral) (mark : Char) : List Char :=
  numeral.exponent.elim [] fun exponent => mark :: (exponent.1.toList ++ exponent.2)

/-- The characters of a number, with the letter that marks its exponent. -/
def spelled (numeral : Numeral) (mark : Char) : List Char :=
  numeral.sign.toList ++
    (numeral.whole ++ (numeral.fractionChars ++ numeral.exponentChars mark))

def IsMark (mark : Char) : Prop := mark = 'e' ∨ mark = 'E'

/-- The parts of a number that a JSON text may hold. -/
structure IsStandard (numeral : Numeral) : Prop where
  sign : numeral.sign = none ∨ numeral.sign = some '-'
  whole : IsDigits numeral.whole
  leading : numeral.whole.head? = some '0' → numeral.whole = ['0']
  fraction : ∀ digits, numeral.fraction = some digits → IsDigits digits
  exponent : ∀ sign digits, numeral.exponent = some (sign, digits) →
    (sign = none ∨ sign = some '-' ∨ sign = some '+') ∧ IsDigits digits

/-- The document that a number is: an integer unless it has a point or an exponent. -/
def document (numeral : Numeral) : Json :=
  if numeral.fraction.isNone && numeral.exponent.isNone then .int numeral.toInt
  else .float numeral.toFloat

end Numeral

end Decimal

namespace Json

/-- What stands between the quotes of a text: characters for themselves, escapes of one letter,
and 16-bit units, which stand for a character alone or in pairs. -/
inductive Escape.Spells : List Char → List Char → Prop where
  | nothing : Spells [] []
  | plain {c rest chars} (quote : c ≠ '"') (backslash : c ≠ '\\') (control : 0x20 ≤ c.toNat)
      (more : Spells rest chars) : Spells (c :: rest) (c :: chars)
  | letter {letter c rest chars} (meaning : unletter? letter = some c)
      (more : Spells rest chars) : Spells ('\\' :: letter :: rest) (c :: chars)
  | unit {a b c d unit rest chars} (digits : unit? a b c d = some unit)
      (high : isHighSurrogate unit = false) (low : isLowSurrogate unit = false)
      (more : Spells rest chars) :
      Spells ('\\' :: 'u' :: a :: b :: c :: d :: rest) (Char.ofNat unit :: chars)
  | pair {a b c d high e f g h low rest chars} (first : unit? a b c d = some high)
      (second : unit? e f g h = some low) (isHigh : isHighSurrogate high = true)
      (isLow : isLowSurrogate low = true) (more : Spells rest chars) :
      Spells ('\\' :: 'u' :: a :: b :: c :: d :: '\\' :: 'u' :: e :: f :: g :: h :: rest)
        (Char.ofNat (0x10000 + (high - 0xD800) * 0x400 + (low - 0xDC00)) :: chars)

mutual

/-- Characters that spell a document; white space around it does not count. -/
inductive Spells (longest : ℕ∞) : List Char → Json → Prop where
  | null : Spells longest ['n', 'u', 'l', 'l'] .null
  | true : Spells longest ['t', 'r', 'u', 'e'] (.bool .true)
  | false : Spells longest ['f', 'a', 'l', 's', 'e'] (.bool .false)
  | number {numeral : Decimal.Numeral} {mark} (standard : numeral.IsStandard)
      (short : (numeral.whole.length : ℕ∞) ≤ longest) (marked : Decimal.Numeral.IsMark mark) :
      Spells longest (numeral.spelled mark) numeral.document
  | text {inside} {content : String} (escaped : Escape.Spells inside content.toList) :
      Spells longest ('"' :: (inside ++ ['"'])) (.str content)
  | emptyArray {gap} (blank : gap.all isGap) : Spells longest ('[' :: (gap ++ [']'])) (.arr [])
  | array {chars items} (inside : SpellsItems longest chars items) :
      Spells longest ('[' :: (chars ++ [']'])) (.arr items)
  | emptyObject {gap} (blank : gap.all isGap) :
      Spells longest ('\x7b' :: (gap ++ ['\x7d'])) (.obj [])
  | object {chars entries} (inside : SpellsEntries longest chars entries) :
      Spells longest ('\x7b' :: (chars ++ ['\x7d'])) (.obj entries)
  | before {c chars document} (blank : isGap c) (spelled : Spells longest chars document) :
      Spells longest (c :: chars) document
  | after {c chars document} (blank : isGap c) (spelled : Spells longest chars document) :
      Spells longest (chars ++ [c]) document

/-- Items, at least one, with commas between them. -/
inductive SpellsItems (longest : ℕ∞) : List Char → List Json → Prop where
  | last {chars item} (spelled : Spells longest chars item) : SpellsItems longest chars [item]
  | more {chars item others rest} (spelled : Spells longest chars item)
      (behind : SpellsItems longest others rest) :
      SpellsItems longest (chars ++ ',' :: others) (item :: rest)

/-- Entries, at least one, with commas between them; each is a text, a colon and a value. -/
inductive SpellsEntries (longest : ℕ∞) : List Char → List (String × Json) → Prop where
  | last {name chars key item} (named : Spells longest name (.str key))
      (spelled : Spells longest chars item) :
      SpellsEntries longest (name ++ ':' :: chars) [(key, item)]
  | more {name chars key item others rest} (named : Spells longest name (.str key))
      (spelled : Spells longest chars item) (behind : SpellsEntries longest others rest) :
      SpellsEntries longest (name ++ ':' :: (chars ++ ',' :: others)) ((key, item) :: rest)

end

end Json

end Transcript
