import Transcript.Value.Display

namespace Transcript

/-- Labels as the texts of their keys and values, in order. -/
abbrev LabelKey := List (String × String)

/-- The order of label texts: by key, then by value. -/
def labelLe (left right : String × String) : Bool :=
  left.1 < right.1 || (left.1 == right.1 && !(right.2 < left.2))

/-- The series that labels select under a name. -/
def labelKey (labels : List (Value × Value)) : LabelKey :=
  (labels.map fun label => (label.1.shown, label.2.shown)).mergeSort labelLe

/-- The counted series in the order in which they were first counted. -/
structure Counters where
  series : List ((String × LabelKey) × Int) := []
deriving DecidableEq, Repr, Inhabited

namespace Counters

/-- Add an amount to a series, which begins at zero. -/
def add (counters : Counters) (name : String) (labels : List (Value × Value)) (amount : Int) :
    Counters :=
  let key := (name, labelKey labels)
  if counters.series.any fun entry => entry.1 == key then
    ⟨counters.series.map fun entry => if entry.1 == key then (key, entry.2 + amount) else entry⟩
  else ⟨counters.series ++ [(key, amount)]⟩

/-- The count of one series; a series that was never counted stands at zero. -/
def value (counters : Counters) (name : String) (labels : List (Value × Value)) : Int :=
  ((counters.series.find? fun entry => entry.1 == (name, labelKey labels)).map (·.2)).getD 0

/-- The sum of all series of a name. -/
def total (counters : Counters) (name : String) : Int :=
  ((counters.series.filter fun entry => entry.1.1 == name).map (·.2)).foldr (· + ·) 0

/-- The count that a query asks for: of one series, or of all when it gives no labels. -/
def query (counters : Counters) (name : String) : Option (List (Value × Value)) → Int
  | none => counters.total name
  | some labels => counters.value name labels

/-- The order in which series are listed: by name, then by labels. -/
def keyLe : LabelKey → LabelKey → Bool
  | [], _ => true
  | _ :: _, [] => false
  | left :: lefts, right :: rights =>
    if left == right then keyLe lefts rights else labelLe left right

/-- All series, sorted. -/
def listing (counters : Counters) : List ((String × LabelKey) × Int) :=
  counters.series.mergeSort fun left right =>
    left.1.1 < right.1.1 || (left.1.1 == right.1.1 && keyLe left.1.2 right.1.2)

end Counters

end Transcript
