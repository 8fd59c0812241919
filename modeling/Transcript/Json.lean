import Transcript.Value

/-! Documents: the values that a JSON text can spell. An object is the list of its
entries, so that a text with a repeated key keeps all of them. -/

namespace Transcript

inductive Json where
  | null
  | bool (flag : Bool)
  | int (number : Int)
  | float (number : Float)
  | str (text : String)
  | arr (items : List Json)
  | obj (entries : List (String × Json))
deriving Inhabited

namespace Json

mutual
/-- The free-form value that a document stands for; of equal keys the last value counts. -/
def toValue : Json → Value
  | .null => .null
  | .bool flag => .bool flag
  | .int number => .int number
  | .float number => .float number
  | .str text => .str text
  | .arr items => .list (toValues items)
  | .obj entries => .ofMapping (collapse (toMapping entries))

def toValues : List Json → List Value
  | [] => []
  | item :: rest => toValue item :: toValues rest

def toMapping : List (String × Json) → Mapping
  | [] => []
  | (key, item) :: rest => (key, toValue item) :: toMapping rest
end

mutual
/-- A document in which every object has each key once. -/
def collapsed : Json → Json
  | .arr items => .arr (collapsedItems items)
  | .obj entries => .obj (collapse (collapsedEntries entries))
  | document => document

def collapsedItems : List Json → List Json
  | [] => []
  | item :: rest => collapsed item :: collapsedItems rest

def collapsedEntries : List (String × Json) → List (String × Json)
  | [] => []
  | (key, item) :: rest => (key, collapsed item) :: collapsedEntries rest
end

mutual
/-- How many values stand inside each other at most, the innermost included. -/
def depth : Json → Nat
  | .arr items => itemsDepth items + 1
  | .obj entries => entriesDepth entries + 1
  | _ => 1

def itemsDepth : List Json → Nat
  | [] => 0
  | item :: rest => max (depth item) (itemsDepth rest)

def entriesDepth : List (String × Json) → Nat
  | [] => 0
  | (_, item) :: rest => max (depth item) (entriesDepth rest)
end

end Json

end Transcript
