import Transcript.Json.Stored

/-! The shape of a typed record: which of its parts are known in advance and which are
free-form. A shape is read in two ways, as a value and as a stored document. -/

namespace Transcript

/-- A `mapping` has free-form values, and a `misfit` is a value that its place does not
allow. A `choice` is a part that may take one of several forms. -/
inductive Shape where
  | plain (document : Json)
  | free (value : Value)
  | misfit (value : Value)
  | mapping (entries : List (Value × Value))
  | list (items : List Shape)
  | record (fields : List (String × Shape))
  | choice (form : Shape)

namespace Shape

def null : Shape := .plain .null
def bool (flag : Bool) : Shape := .plain (.bool flag)
def int (number : Int) : Shape := .plain (.int number)
def float (number : Float) : Shape := .plain (.float number)
def text (content : String) : Shape := .plain (.str content)
def texts (items : List String) : Shape := .plain (.arr (items.map .str))

/-- A mapping whose keys are texts. -/
def ofMapping (mapping : Mapping) : Shape :=
  .mapping (mapping.map fun entry => (.str entry.1, entry.2))

/-- A part that may be absent is written as null. -/
def optional {α : Type} (shape : α → Shape) : Option α → Shape
  | none => null
  | some value => shape value

mutual
/-- The value of a shape: every part is kept as it is. -/
def toValue : Shape → Value
  | .plain document => document.toValue
  | .free value | .misfit value => value
  | .mapping entries => .mapping entries
  | .list items => .list (toValues items)
  | .record fields => .ofMapping (toMapping fields)
  | .choice form => toValue form

def toValues : List Shape → List Value
  | [] => []
  | item :: rest => toValue item :: toValues rest

def toMapping : List (String × Shape) → Mapping
  | [] => []
  | (name, item) :: rest => (name, toValue item) :: toMapping rest
end

mutual
/-- Every part holds what its place allows. -/
def fits : Shape → Bool
  | .plain _ | .free _ => true
  | .misfit _ => false
  | .mapping entries => entries.all fun entry => entry.1.text?.isSome
  | .list items => itemsFit items
  | .record fields => fieldsFit fields
  | .choice form => fits form

def itemsFit : List Shape → Bool
  | [] => true
  | item :: rest => fits item && itemsFit rest

def fieldsFit : List (String × Shape) → Bool
  | [] => true
  | (_, item) :: rest => fits item && fieldsFit rest
end

mutual
/-- A known part as a document holds it: floats that are no numbers become null. -/
def finite : Json → Json
  | .float number => Json.Stored.ofFloat number
  | .arr items => .arr (finiteItems items)
  | .obj entries => .obj (finiteEntries entries)
  | document => document

def finiteItems : List Json → List Json
  | [] => []
  | item :: rest => finite item :: finiteItems rest

def finiteEntries : List (String × Json) → List (String × Json)
  | [] => []
  | (key, item) :: rest => (key, finite item) :: finiteEntries rest
end

mutual
/-- The stored document of a shape; only its free-form parts can fail. In each of them at
most `room` values may stand inside each other. A part that may take one of several forms
is settled first: put together on its own, with each key once, and then measured as a
whole. Where it cannot be settled, it is written as it stands. -/
def toJsonWithin (room : Nat) : Shape → Except Json.StoredFault Json
  | .plain document => .ok (finite document)
  | .free value | .misfit value => Json.Stored.encode room value
  | .mapping entries => .obj <$> Json.Stored.encodeEntries room entries
  | .list items => .arr <$> itemsWithin room items
  | .record fields => .obj <$> fieldsWithin room fields
  | .choice form =>
    match fits form, toJsonWithin room form with
    | true, .ok document =>
      if document.collapsed.depth ≤ room then .ok document.collapsed else .error .tooDeep
    | _, _ => asItStands room form

def itemsWithin (room : Nat) : List Shape → Except Json.StoredFault (List Json)
  | [] => .ok []
  | item :: rest => do
    let document ← toJsonWithin room item
    let documents ← itemsWithin room rest
    return document :: documents

def fieldsWithin (room : Nat) :
    List (String × Shape) → Except Json.StoredFault (List (String × Json))
  | [] => .ok []
  | (name, item) :: rest => do
    let document ← toJsonWithin room item
    let documents ← fieldsWithin room rest
    return (name, document) :: documents

/-- The document of a part that is not settled: the lists and records on the way to a
free-form part take up room as well. -/
def asItStands (room : Nat) : Shape → Except Json.StoredFault Json
  | .plain document => .ok (finite document)
  | .free value | .misfit value => Json.Stored.encode room value
  | .mapping entries => .obj <$> Json.Stored.encodeEntries room entries
  | .list items => .arr <$> itemsAsTheyStand (room - 1) items
  | .record fields => .obj <$> fieldsWithin (room - 1) fields
  | .choice form => asItStands room form

def itemsAsTheyStand (room : Nat) : List Shape → Except Json.StoredFault (List Json)
  | [] => .ok []
  | item :: rest => do
    let document ← asItStands room item
    let documents ← itemsAsTheyStand room rest
    return document :: documents
end

/-- The stored document of a shape. -/
def toJson (shape : Shape) : Except Json.StoredFault Json :=
  shape.toJsonWithin Json.Stored.depthLimit

/-- The value that a shape is stored as; of equal keys the last value counts. -/
def dump (shape : Shape) : Except Json.StoredFault Value := Json.toValue <$> shape.toJson

/-- The stored text of a shape. -/
def toText (shape : Shape) : Except Json.StoredFault String :=
  Json.render .stored <$> shape.toJson

end Shape

end Transcript
