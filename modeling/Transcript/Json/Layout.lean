import Transcript.Decimal.Layout
import Transcript.Json
import Transcript.Json.Escape

/-! Writing a document as text. The two formats differ in their separators and in the
text of numbers; structure and escapes are the same. -/

namespace Transcript.Json

/-- The decisions of one JSON format: what stands behind a comma and a colon, how floats
are laid out, and whether infinities and not-a-number are spelled out or written as null. -/
structure Layout where
  gap : List Char
  number : Decimal.Layout
  spellsNonFinite : Bool

/-- Payload texts, which become the content of a message: a space behind every comma and
colon. -/
def Layout.payload : Layout where
  gap := [' ']
  number := .padded
  spellsNonFinite := true

/-- Stored documents: no spaces, and null for what is no number. -/
def Layout.stored : Layout where
  gap := []
  number := .stored
  spellsNonFinite := false

def nullChars : List Char := ['n', 'u', 'l', 'l']

def boolChars (flag : Bool) : List Char :=
  if flag then ['t', 'r', 'u', 'e'] else ['f', 'a', 'l', 's', 'e']

def intChars (number : Int) : List Char :=
  let digits := Nat.toDigits 10 number.natAbs
  if number < 0 then '-' :: digits else digits

def quotedChars (text : String) : List Char := '"' :: Escape.encode text.toList ++ ['"']

def Layout.floatChars (layout : Layout) (number : Float) : List Char :=
  if layout.spellsNonFinite then
    layout.number.float "Infinity".toList ['N', 'a', 'N'] number
  else if Decimal.isFinite number then layout.number.float [] [] number
  else nullChars

/-- Items behind each other, each but the first after a comma. -/
def Layout.separated (layout : Layout) : List (List Char) → List Char
  | [] => []
  | [item] => item
  | item :: rest => item ++ ',' :: (layout.gap ++ layout.separated rest)

mutual
def Layout.chars (layout : Layout) : Json → List Char
  | .null => nullChars
  | .bool flag => boolChars flag
  | .int number => intChars number
  | .float number => layout.floatChars number
  | .str text => quotedChars text
  | .arr items => '[' :: layout.separated (layout.itemChars items) ++ [']']
  | .obj entries => '\x7b' :: layout.separated (layout.entryChars entries) ++ ['\x7d']

def Layout.itemChars (layout : Layout) : List Json → List (List Char)
  | [] => []
  | item :: rest => layout.chars item :: layout.itemChars rest

def Layout.entryChars (layout : Layout) : List (String × Json) → List (List Char)
  | [] => []
  | (key, item) :: rest =>
    (quotedChars key ++ ':' :: (layout.gap ++ layout.chars item)) :: layout.entryChars rest
end

/-- The text of a document. -/
def render (layout : Layout) (document : Json) : String := String.ofList (layout.chars document)

end Transcript.Json
