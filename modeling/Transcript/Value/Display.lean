import Transcript.Decimal.Layout
import Transcript.Text.Quoted
import Transcript.Value

namespace Transcript.Value

def shownBool (flag : Bool) : String := if flag then "True" else "False"

/-- Join shown items by a comma and a space. -/
def joined (items : List String) : String := String.intercalate ", " items

/-- A tuple with a single item keeps a comma behind it. -/
def shownTuple : List String → String
  | [item] => "(" ++ item ++ ",)"
  | items => "(" ++ joined items ++ ")"

def shownMapping (entries : List String) : String := "\x7b" ++ joined entries ++ "\x7d"

def shownSet : List String → String
  | [] => "set()"
  | items => shownMapping items

mutual
/-- A value as a container shows it. -/
def repr : Value → String
  | .null => "None"
  | .bool flag => shownBool flag
  | .int number => toString number
  | .float number => Decimal.shown number
  | .str text => Text.quoted text
  | .bytes octets => Text.quotedOctets octets
  | .list items => "[" ++ joined (reprItems items) ++ "]"
  | .tuple items => shownTuple (reprItems items)
  | .set items => shownSet (reprItems items)
  | .mapping entries => shownMapping (reprEntries entries)
  | .object => "<object>"
  | .cyclicList => "[[...]]"
  | .cyclicMapping => shownMapping [Text.quoted "self" ++ ": " ++ shownMapping ["..."]]

def reprItems : List Value → List String
  | [] => []
  | item :: rest => repr item :: reprItems rest

def reprEntries : List (Value × Value) → List String
  | [] => []
  | (key, value) :: rest => (repr key ++ ": " ++ repr value) :: reprEntries rest
end

/-- A value by itself: a text shows bare. -/
def shown : Value → String
  | .str text => text
  | value => value.repr

end Transcript.Value
