import Transcript.Proofs.Json.Payload
import Transcript.Proofs.Json.Texts

namespace Transcript

namespace Value

mutual
/-- Every float that stands in a value, at any depth, is a number. Keys are not asked. -/
def HasNumbers : Value → Prop
  | .float number => Decimal.isFinite number = true
  | .list items | .tuple items | .set items => ItemsHaveNumbers items
  | .mapping entries => EntriesHaveNumbers entries
  | _ => True

def ItemsHaveNumbers : List Value → Prop
  | [] => True
  | item :: rest => HasNumbers item ∧ ItemsHaveNumbers rest

def EntriesHaveNumbers : List (Value × Value) → Prop
  | [] => True
  | (_, item) :: rest => HasNumbers item ∧ EntriesHaveNumbers rest
end

theorem entriesHaveNumbers_iff {entries : List (Value × Value)} :
    EntriesHaveNumbers entries ↔ ∀ entry ∈ entries, entry.2.HasNumbers := by
  induction entries with
  | nil => simp [EntriesHaveNumbers]
  | cons entry rest ih => simp [EntriesHaveNumbers, ih]

end Value

namespace Json

/-- A part of a document that is no infinity and not not-a-number. -/
def IsNumber : Json → Prop
  | .float number => Decimal.isFinite number = true
  | _ => True

/-- Nothing else keeps a payload from being spelled, however long its numbers are. -/
theorem canSpell_iff (leaf : Json) : Layout.payload.CanSpell ⊤ leaf ↔ IsNumber leaf := by
  cases leaf with
  | float number => simp [Layout.CanSpell, Layout.payload, IsNumber]
  | int number => simp [Layout.CanSpell, IsNumber]
  | null | bool | str | arr | obj => exact Iff.rfl

namespace Payload

mutual
/-- A payload holds the floats of its value. -/
theorem leaves_encode : (value : Value) → ∀ {depth document},
    encode depth value = .ok document → (Leaves IsNumber document ↔ value.HasNumbers)
  | .null, _, _, made | .bool _, _, _, made | .float _, _, _, made | .str _, _, _, made => by
    cases made
    exact Iff.rfl
  | .int _, _, _, made => by
    rw [encode] at made
    split at made
    · cases made
      exact Iff.rfl
    · cases made
  | .bytes _, _, _, made | .set _, _, _, made | .object, _, _, made | .cyclicList, _, _, made
  | .cyclicMapping, _, _, made => by cases made
  | .list items, _, _, made | .tuple items, _, _, made => by
    rw [encode] at made
    split at made
    · cases made
    · obtain ⟨documents, inside, rfl⟩ := ok_of_map made
      exact itemLeaves_encode items inside
  | .mapping entries, _, _, made => by
    rw [encode] at made
    split at made
    · cases made
    · obtain ⟨documents, inside, rfl⟩ := ok_of_map made
      exact entryLeaves_encode entries inside

theorem itemLeaves_encode : (items : List Value) → ∀ {depth documents},
    encodeItems depth items = .ok documents →
    (ItemLeaves IsNumber documents ↔ Value.ItemsHaveNumbers items)
  | [], _, _, made => by
    cases made
    exact Iff.rfl
  | item :: rest, _, _, made => by
    obtain ⟨document, documents, first, later, rfl⟩ := ok_of_both made
    exact and_congr (leaves_encode item first) (itemLeaves_encode rest later)

theorem entryLeaves_encode : (entries : List (Value × Value)) → ∀ {depth documents},
    encodeEntries depth entries = .ok documents →
    (EntryLeaves IsNumber documents ↔ Value.EntriesHaveNumbers entries)
  | [], _, _, made => by
    cases made
    exact Iff.rfl
  | (key, item) :: rest, _, _, made => by
    rw [encodeEntries] at made
    cases named : keyText key with
    | error fault =>
      rw [named] at made
      cases made
    | ok name =>
      rw [named] at made
      obtain ⟨document, documents, first, later, rfl⟩ := ok_of_both made
      exact and_congr (leaves_encode item first) (entryLeaves_encode rest later)
end

end Payload

theorem isNumber_ofFloat (number : Float) : Leaves IsNumber (Stored.ofFloat number) := by
  unfold Stored.ofFloat
  split
  · assumption
  · trivial

namespace Stored

mutual
theorem leaves_encode : (value : Value) → ∀ {room document},
    encode room value = .ok document → Leaves IsNumber document
  | .null, _, _, made | .bool _, _, _, made | .int _, _, _, made | .str _, _, _, made => by
    obtain ⟨_, here⟩ := ok_of_room made
    cases here
    trivial
  | .float number, _, _, made => by
    obtain ⟨_, here⟩ := ok_of_room made
    cases here
    exact isNumber_ofFloat number
  | .bytes _, _, _, made => by
    obtain ⟨_, here⟩ := ok_of_room made
    obtain ⟨text, _, rfl⟩ := ok_of_map here
    trivial
  | .list items, _, _, made | .tuple items, _, _, made | .set items, _, _, made => by
    obtain ⟨_, here⟩ := ok_of_room made
    obtain ⟨documents, inside, rfl⟩ := ok_of_map here
    exact itemLeaves_encode items inside
  | .mapping entries, _, _, made => by
    obtain ⟨_, here⟩ := ok_of_room made
    obtain ⟨documents, inside, rfl⟩ := ok_of_map here
    exact entryLeaves_encode entries inside
  | .object, _, _, made | .cyclicList, _, _, made | .cyclicMapping, _, _, made => by
    obtain ⟨_, here⟩ := ok_of_room made
    cases here

theorem itemLeaves_encode : (items : List Value) → ∀ {room documents},
    encodeItems room items = .ok documents → ItemLeaves IsNumber documents
  | [], _, _, made => by
    cases made
    trivial
  | item :: rest, _, _, made => by
    obtain ⟨document, documents, first, later, rfl⟩ := ok_of_both made
    exact ⟨leaves_encode item first, itemLeaves_encode rest later⟩

theorem entryLeaves_encode : (entries : List (Value × Value)) → ∀ {room documents},
    encodeEntries room entries = .ok documents → EntryLeaves IsNumber documents
  | [], _, _, made => by
    cases made
    trivial
  | (key, item) :: rest, _, _, made => by
    rw [encodeEntries] at made
    cases named : keyText key with
    | error fault =>
      rw [named] at made
      cases made
    | ok name =>
      rw [named] at made
      obtain ⟨document, documents, first, later, rfl⟩ := ok_of_both made
      exact ⟨leaves_encode item first, entryLeaves_encode rest later⟩
end

end Stored

mutual
theorem leaves_finite : (document : Json) → Leaves IsNumber (Shape.finite document)
  | .null | .bool _ | .int _ | .str _ => trivial
  | .float number => isNumber_ofFloat number
  | .arr items => itemLeaves_finite items
  | .obj entries => entryLeaves_finite entries

theorem itemLeaves_finite : (items : List Json) → ItemLeaves IsNumber (Shape.finiteItems items)
  | [] => trivial
  | item :: rest => ⟨leaves_finite item, itemLeaves_finite rest⟩

theorem entryLeaves_finite : (entries : List (String × Json)) →
    EntryLeaves IsNumber (Shape.finiteEntries entries)
  | [] => trivial
  | (_, item) :: rest => ⟨leaves_finite item, entryLeaves_finite rest⟩
end

mutual
theorem finite_of_isNumber : (document : Json) → Leaves IsNumber document →
    Shape.finite document = document
  | .null, _ | .bool _, _ | .int _, _ | .str _, _ => rfl
  | .float _, here => if_pos here
  | .arr items, inside => congrArg Json.arr (finiteItems_of_isNumber items inside)
  | .obj entries, inside => congrArg Json.obj (finiteEntries_of_isNumber entries inside)

theorem finiteItems_of_isNumber : (items : List Json) → ItemLeaves IsNumber items →
    Shape.finiteItems items = items
  | [], _ => rfl
  | item :: rest, inside =>
    congrArg₂ List.cons (finite_of_isNumber item inside.1) (finiteItems_of_isNumber rest inside.2)

theorem finiteEntries_of_isNumber : (entries : List (String × Json)) →
    EntryLeaves IsNumber entries → Shape.finiteEntries entries = entries
  | [], _ => rfl
  | (key, item) :: rest, inside =>
    congrArg₂ List.cons (congrArg (Prod.mk key) (finite_of_isNumber item inside.1))
      (finiteEntries_of_isNumber rest inside.2)
end

mutual
theorem leaves_collapsed {holds : Json → Prop} : (document : Json) → Leaves holds document →
    Leaves holds document.collapsed
  | .null, here | .bool _, here | .int _, here | .float _, here | .str _, here => here
  | .arr items, inside => itemLeaves_collapsed items inside
  | .obj entries, inside => by
    refine entryLeaves_iff.mpr fun entry left => ?_
    exact entryLeaves_iff.mp (entryLeaves_collapsed entries inside) entry (mem_of_mem_collapse left)

theorem itemLeaves_collapsed {holds : Json → Prop} : (items : List Json) →
    ItemLeaves holds items → ItemLeaves holds (collapsedItems items)
  | [], _ => trivial
  | item :: rest, inside => ⟨leaves_collapsed item inside.1, itemLeaves_collapsed rest inside.2⟩

theorem entryLeaves_collapsed {holds : Json → Prop} : (entries : List (String × Json)) →
    EntryLeaves holds entries → EntryLeaves holds (collapsedEntries entries)
  | [], _ => trivial
  | (_, item) :: rest, inside =>
    ⟨leaves_collapsed item inside.1, entryLeaves_collapsed rest inside.2⟩
end

mutual
theorem hasNumbers_toValue : (document : Json) → Leaves IsNumber document →
    document.toValue.HasNumbers
  | .null, _ | .bool _, _ | .int _, _ | .str _, _ => trivial
  | .float _, here => here
  | .arr items, inside => itemsHaveNumbers_toValues items inside
  | .obj entries, inside => by
    refine Value.entriesHaveNumbers_iff.mpr fun entry member => ?_
    obtain ⟨kept, left, rfl⟩ := List.mem_map.mp member
    exact hasNumbers_toMapping entries inside kept (mem_of_mem_collapse left)

theorem itemsHaveNumbers_toValues : (items : List Json) → ItemLeaves IsNumber items →
    Value.ItemsHaveNumbers (toValues items)
  | [], _ => trivial
  | item :: rest, inside =>
    ⟨hasNumbers_toValue item inside.1, itemsHaveNumbers_toValues rest inside.2⟩

theorem hasNumbers_toMapping : (entries : List (String × Json)) → EntryLeaves IsNumber entries →
    ∀ entry ∈ toMapping entries, entry.2.HasNumbers
  | [], _ => fun _ member => nomatch member
  | (_, item) :: rest, inside => by
    intro entry member
    rcases List.mem_cons.mp member with rfl | later
    · exact hasNumbers_toValue item inside.1
    · exact hasNumbers_toMapping rest inside.2 entry later
end

mutual
/-- Where each key stands once, nothing of a document is lost in its value. -/
theorem isNumber_of_hasNumbers : (document : Json) → KeysOnce document →
    document.toValue.HasNumbers → Leaves IsNumber document
  | .null, _, _ | .bool _, _, _ | .int _, _, _ | .str _, _, _ => trivial
  | .float _, _, here => here
  | .arr items, once, inside => itemsAreNumbers items once inside
  | .obj entries, ⟨once, each⟩, inside => by
    rw [toValue_obj once] at inside
    refine entriesAreNumbers entries each fun entry member => ?_
    exact Value.entriesHaveNumbers_iff.mp inside _ (List.mem_map.mpr ⟨entry, member, rfl⟩)

theorem itemsAreNumbers : (items : List Json) → ItemsKeysOnce items →
    Value.ItemsHaveNumbers (toValues items) → ItemLeaves IsNumber items
  | [], _, _ => trivial
  | item :: rest, once, inside =>
    ⟨isNumber_of_hasNumbers item once.1 inside.1, itemsAreNumbers rest once.2 inside.2⟩

theorem entriesAreNumbers : (entries : List (String × Json)) → EntriesKeysOnce entries →
    (∀ entry ∈ toMapping entries, entry.2.HasNumbers) → EntryLeaves IsNumber entries
  | [], _, _ => trivial
  | (_, item) :: rest, once, inside => by
    obtain ⟨here, later⟩ := List.forall_mem_cons.mp inside
    exact ⟨isNumber_of_hasNumbers item once.1 here, entriesAreNumbers rest once.2 later⟩
end

end Json

namespace Shape

open Json (Leaves ItemLeaves EntryLeaves IsNumber)

mutual
/-- The stored form of a record has no such floats. -/
theorem leaves_toJsonWithin : (shape : Shape) → ∀ {room document},
    toJsonWithin room shape = .ok document → Leaves IsNumber document
  | .plain known, _, _, made => by
    cases made
    exact Json.leaves_finite known
  | .free value, _, _, made | .misfit value, _, _, made => Json.Stored.leaves_encode value made
  | .mapping entries, _, _, made => by
    obtain ⟨documents, inside, rfl⟩ := ok_of_map made
    exact Json.Stored.entryLeaves_encode entries inside
  | .list items, _, _, made => by
    obtain ⟨documents, inside, rfl⟩ := ok_of_map made
    exact itemLeaves_within items inside
  | .record fields, _, _, made => by
    obtain ⟨documents, inside, rfl⟩ := ok_of_map made
    exact entryLeaves_within fields inside
  | .choice form, _, _, made => by
    rw [toJsonWithin] at made
    split at made
    · rename_i document _ settled
      split at made
      · cases made
        exact Json.leaves_collapsed document (leaves_toJsonWithin form settled)
      · cases made
    · exact leaves_asItStands form made

theorem itemLeaves_within : (items : List Shape) → ∀ {room documents},
    itemsWithin room items = .ok documents → ItemLeaves IsNumber documents
  | [], _, _, made => by
    cases made
    trivial
  | item :: rest, _, _, made => by
    obtain ⟨document, documents, first, later, rfl⟩ := ok_of_both made
    exact ⟨leaves_toJsonWithin item first, itemLeaves_within rest later⟩

theorem entryLeaves_within : (fields : List (String × Shape)) → ∀ {room documents},
    fieldsWithin room fields = .ok documents → EntryLeaves IsNumber documents
  | [], _, _, made => by
    cases made
    trivial
  | (_, item) :: rest, _, _, made => by
    obtain ⟨document, documents, first, later, rfl⟩ := ok_of_both made
    exact ⟨leaves_toJsonWithin item first, entryLeaves_within rest later⟩

theorem leaves_asItStands : (shape : Shape) → ∀ {room document},
    asItStands room shape = .ok document → Leaves IsNumber document
  | .plain known, _, _, made => by
    cases made
    exact Json.leaves_finite known
  | .free value, _, _, made | .misfit value, _, _, made => Json.Stored.leaves_encode value made
  | .mapping entries, _, _, made => by
    obtain ⟨documents, inside, rfl⟩ := ok_of_map made
    exact Json.Stored.entryLeaves_encode entries inside
  | .list items, _, _, made => by
    obtain ⟨documents, inside, rfl⟩ := ok_of_map made
    exact itemLeaves_asTheyStand items inside
  | .record fields, _, _, made => by
    obtain ⟨documents, inside, rfl⟩ := ok_of_map made
    exact entryLeaves_within fields inside
  | .choice form, _, _, made => leaves_asItStands form made

theorem itemLeaves_asTheyStand : (items : List Shape) → ∀ {room documents},
    itemsAsTheyStand room items = .ok documents → ItemLeaves IsNumber documents
  | [], _, _, made => by
    cases made
    trivial
  | item :: rest, _, _, made => by
    obtain ⟨document, documents, first, later, rfl⟩ := ok_of_both made
    exact ⟨leaves_asItStands item first, itemLeaves_asTheyStand rest later⟩
end

end Shape

end Transcript
