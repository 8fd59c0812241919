import Transcript.Proofs.Json.Finite

namespace Transcript

namespace Value

mutual
/-- A value that JSON can hold: a null, a truth value, an integer of no more digits than are read, a
finite float, a text, a list, or a mapping with each key once, all of them texts. -/
def IsJson : Value → Prop
  | .null | .bool _ | .str _ => True
  | .int number => (Nat.toDigits 10 number.natAbs).length ≤ Decimal.integerLimit
  | .float number => Decimal.isFinite number = true
  | .list items => ItemsAreJson items
  | .mapping entries => (entries.map Prod.fst).Nodup ∧ EntriesAreJson entries
  | .bytes _ | .tuple _ | .set _ | .object | .cyclicList | .cyclicMapping => False

def ItemsAreJson : List Value → Prop
  | [] => True
  | item :: rest => IsJson item ∧ ItemsAreJson rest

def EntriesAreJson : List (Value × Value) → Prop
  | [] => True
  | (key, item) :: rest => (∃ text, key = .str text) ∧ IsJson item ∧ EntriesAreJson rest
end

end Value

namespace Json

mutual
/-- The document that a value is, as far as JSON can hold it. -/
def ofValue : Value → Json
  | .bool flag => .bool flag
  | .int number => .int number
  | .float number => .float number
  | .str text => .str text
  | .list items => .arr (ofValues items)
  | .mapping entries => .obj (ofEntries entries)
  | _ => .null

def ofValues : List Value → List Json
  | [] => []
  | item :: rest => ofValue item :: ofValues rest

def ofEntries : List (Value × Value) → List (String × Json)
  | [] => []
  | (key, item) :: rest => (key.text?.getD "", ofValue item) :: ofEntries rest
end

/-- A document that a value is: it has that value, and each key once, and its parts come back. -/
structure Represents (document : Json) (value : Value) : Prop where
  value : document.toValue = value
  once : KeysOnce document
  back : Leaves Layout.stored.GivesBack document

/-- Entries that are those of a mapping. -/
structure EntriesRepresent (documents : List (String × Json)) (entries : List (Value × Value)) :
    Prop where
  keys : documents.map (fun entry => Value.str entry.1) = entries.map Prod.fst
  values : valueEntries documents = entries
  once : EntriesKeysOnce documents
  back : EntryLeaves Layout.stored.GivesBack documents

mutual
theorem represents_ofValue : (value : Value) → value.IsJson → Represents (ofValue value) value
  | .null, _ | .bool _, _ | .str _, _ => ⟨rfl, trivial, trivial, rfl⟩
  | .int _, short => ⟨rfl, trivial, Nat.cast_le.mpr short, rfl⟩
  | .float _, finite => ⟨rfl, trivial, Layout.stored_givesBack_float finite⟩
  | .list items, all =>
    have each := represent_ofValues items all
    ⟨congrArg Value.list each.1, each.2.1, each.2.2⟩
  | .mapping entries, ⟨once, all⟩ => by
    have each := represent_ofEntries entries all
    have keys : ((ofEntries entries).map Prod.fst).Nodup := by
      have texts : ((ofEntries entries).map fun entry => Value.str entry.1).Nodup :=
        each.keys ▸ once
      exact (List.map_map ▸ texts).of_map _
    refine ⟨?_, ⟨keys, each.once⟩, each.back⟩
    rw [ofValue, toValue_obj keys]
    exact congrArg Value.mapping each.values

theorem represent_ofValues : (items : List Value) → Value.ItemsAreJson items →
    toValues (ofValues items) = items ∧ ItemsKeysOnce (ofValues items) ∧
      ItemLeaves Layout.stored.GivesBack (ofValues items)
  | [], _ => ⟨rfl, trivial, trivial⟩
  | item :: rest, ⟨here, later⟩ =>
    have first := represents_ofValue item here
    have others := represent_ofValues rest later
    ⟨congrArg₂ List.cons first.value others.1, ⟨first.once, others.2.1⟩,
      ⟨first.back, others.2.2⟩⟩

theorem represent_ofEntries : (entries : List (Value × Value)) → Value.EntriesAreJson entries →
    EntriesRepresent (ofEntries entries) entries
  | [], _ => ⟨rfl, rfl, trivial, trivial⟩
  | (_, item) :: rest, ⟨⟨text, rfl⟩, here, later⟩ =>
    have first := represents_ofValue item here
    have others := represent_ofEntries rest later
    { keys := congrArg (Value.str text :: ·) others.keys
      values := congrArg₂ List.cons (congrArg (Prod.mk (Value.str text)) first.value) others.values
      once := ⟨first.once, others.once⟩
      back := ⟨first.back, others.back⟩ }
end

theorem isNumber_of_givesBack {leaf : Json} (back : Layout.stored.GivesBack leaf) :
    IsNumber leaf := by
  cases leaf with
  | float => exact Layout.GivesBack.finite back
  | null | bool | int | str | arr | obj => trivial

/-- A document that comes back is written as it is. -/
theorem finite_of_givesBack (document : Json) (back : Leaves Layout.stored.GivesBack document) :
    Shape.finite document = document :=
  finite_of_isNumber document (Leaves.imp (fun _ => isNumber_of_givesBack) document back)

end Json

end Transcript
