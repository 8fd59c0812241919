import Transcript.Decimal.Binary

/-! Free-form values: what callers hand over as tool inputs, metadata and details. They
hold more than a document can, so writing one as a document may fail. -/

namespace Transcript

/-- A free-form value. Mappings keep the order in which their keys first arrived; `object`
is a thing without any content, and the two cyclic containers hold nothing but themselves. -/
inductive Value where
  | null
  | bool (flag : Bool)
  | int (number : Int)
  | float (number : Float)
  | str (text : String)
  | bytes (octets : List UInt8)
  | list (items : List Value)
  | tuple (items : List Value)
  | set (items : List Value)
  | mapping (entries : List (Value × Value))
  | object
  | cyclicList
  | cyclicMapping
deriving Inhabited

/-- A mapping whose keys are texts. -/
abbrev Mapping := List (String × Value)

namespace Value

def ofMapping (mapping : Mapping) : Value :=
  .mapping (mapping.map fun entry => (.str entry.1, entry.2))

/-- The name of the sort of a value, as messages to the user show it. -/
def kindName : Value → String
  | .null => "NoneType"
  | .bool _ => "bool"
  | .int _ => "int"
  | .float _ => "float"
  | .str _ => "str"
  | .bytes _ => "bytes"
  | .list _ | .cyclicList => "list"
  | .tuple _ => "tuple"
  | .set _ => "set"
  | .mapping _ | .cyclicMapping => "dict"
  | .object => "object"

/-- A value counts as given unless it is null, zero or empty. -/
def isGiven : Value → Bool
  | .null => false
  | .bool flag => flag
  | .int number => number != 0
  | .float number => number != 0.0
  | .str text => text != ""
  | .bytes octets => !octets.isEmpty
  | .list items | .tuple items | .set items => !items.isEmpty
  | .mapping entries => !entries.isEmpty
  | .object | .cyclicList | .cyclicMapping => true

/-- The text that a value is, if it is one. -/
def text? : Value → Option String
  | .str text => some text
  | _ => none

/-- The integer that a number or truth value equals. -/
def integer? : Value → Option Int
  | .bool flag => some (if flag then 1 else 0)
  | .int number => some number
  | .float number => Decimal.integer? number
  | _ => none

mutual
/-- Two keys are the same key when they are equal; numbers and truth values are equal
when they stand for the same number, whatever their sort. -/
def sameKey : Value → Value → Bool
  | .null, .null => true
  | .str left, .str right => left == right
  | .bytes left, .bytes right => left == right
  | .tuple left, .tuple right | .list left, .list right => sameKeys left right
  | .float left, .float right => left == right
  | left, right =>
    match left.integer?, right.integer? with
    | some number, some other => number == other
    | _, _ => false

def sameKeys : List Value → List Value → Bool
  | [], [] => true
  | left :: lefts, right :: rights => sameKey left right && sameKeys lefts rights
  | _, _ => false
end

/-- Put an entry: an equal key keeps its place and spelling and takes the new value. -/
def putEntry (entries : List (Value × Value)) (key value : Value) : List (Value × Value) :=
  if entries.any fun entry => entry.1.sameKey key then
    entries.map fun entry => if entry.1.sameKey key then (entry.1, value) else entry
  else entries ++ [(key, value)]

/-- The mapping that a sequence of entries builds. -/
def mappingOf (entries : List (Value × Value)) : Value :=
  .mapping (entries.foldl (fun built entry => putEntry built entry.1 entry.2) [])

/-- The value of a text key. -/
def lookup? (entries : List (Value × Value)) (name : String) : Option Value :=
  (entries.find? fun entry => entry.1.sameKey (.str name)).map (·.2)

/-- A value wrapped a number of times. -/
def nest (wrap : Value → Value) : Nat → Value
  | 0 => .null
  | depth + 1 => wrap (nest wrap depth)

end Value

/-- Put an entry into a mapping with text keys; a key that is present keeps its place. -/
def putText {α : Type} (entries : List (String × α)) (key : String) (value : α) :
    List (String × α) :=
  if entries.any fun entry => entry.1 == key then
    entries.map fun entry => if entry.1 == key then (key, value) else entry
  else entries ++ [(key, value)]

/-- Of entries with equal keys the last value stands, at the place of the first. -/
def collapse {α : Type} (entries : List (String × α)) : List (String × α) :=
  entries.foldl (fun built entry => putText built entry.1 entry.2) []

end Transcript
