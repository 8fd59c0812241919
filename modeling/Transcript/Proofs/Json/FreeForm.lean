import Transcript.Proofs.Json.KeyOrder
import Transcript.Shape

namespace Transcript

section Results

variable {ε α β γ : Type} {first : Except ε α} {second : Except ε β}

theorem ok_of_map {build : α → γ} {result : γ} (made : build <$> first = .ok result) :
    ∃ value, first = .ok value ∧ build value = result := by
  cases first with
  | error fault => cases made
  | ok value =>
    cases made
    exact ⟨value, rfl, rfl⟩

theorem error_of_map {build : α → γ} {fault : ε} (failed : build <$> first = .error fault) :
    first = .error fault := by
  cases first with
  | error found =>
    cases failed
    rfl
  | ok value => cases failed

variable {both : α → β → γ}

theorem ok_of_both {result : γ}
    (made : (do return both (← first) (← second)) = Except.ok result) :
    ∃ left right, first = .ok left ∧ second = .ok right ∧ both left right = result := by
  cases first with
  | error fault => cases made
  | ok left =>
    obtain ⟨right, there, same⟩ := ok_of_map made
    exact ⟨left, right, rfl, there, same⟩

theorem error_of_both {fault : ε}
    (failed : (do return both (← first) (← second)) = Except.error fault) :
    first = .error fault ∨ second = .error fault := by
  cases first with
  | error found =>
    cases failed
    exact .inl rfl
  | ok left => exact .inr (error_of_map failed)

end Results

namespace Json

theorem keys_toMapping (entries : List (String × Json)) :
    (toMapping entries).map Prod.fst = entries.map Prod.fst := by
  induction entries with
  | nil => rfl
  | cons entry rest ih => rw [toMapping, List.map_cons, List.map_cons, ih]

theorem toMapping_eq_map (entries : List (String × Json)) :
    toMapping entries = entries.map fun entry => (entry.1, entry.2.toValue) := by
  induction entries with
  | nil => rfl
  | cons entry rest ih => rw [toMapping, ih, List.map_cons]

theorem toValue_obj {entries : List (String × Json)} (once : (entries.map Prod.fst).Nodup) :
    (Json.obj entries).toValue = .ofMapping (toMapping entries) := by
  rw [toValue, collapse_of_nodup (by rwa [keys_toMapping])]

namespace Stored

mutual
theorem encode_toValue : (document : Json) → ∀ room, KeysOnce document →
    document.depth ≤ room → encode room document.toValue = .ok (Shape.finite document)
  | .null | .bool _ | .int _ | .float _ | .str _ => by
    intro room _ deep
    have some : room ≠ 0 := by
      rintro rfl
      simp [depth] at deep
    simp only [toValue, encode, if_neg some]
    rfl
  | .arr items => by
    intro room once deep
    rw [depth] at deep
    have some : room ≠ 0 := by omega
    rw [toValue, encode, if_neg some, encodeItems_toValues items _ once (by omega)]
    rfl
  | .obj entries => by
    intro room once deep
    rw [depth] at deep
    have some : room ≠ 0 := by omega
    rw [toValue_obj once.1, Value.ofMapping, encode, if_neg some,
      encodeEntries_toMapping entries _ once.2 (by omega)]
    rfl

theorem encodeItems_toValues : (items : List Json) → ∀ room, ItemsKeysOnce items →
    itemsDepth items ≤ room → encodeItems room (toValues items) = .ok (Shape.finiteItems items)
  | [] => fun _ _ _ => rfl
  | item :: rest => by
    intro room once deep
    rw [itemsDepth] at deep
    rw [toValues, encodeItems, encode_toValue item room once.1 (by omega),
      encodeItems_toValues rest room once.2 (by omega)]
    rfl

theorem encodeEntries_toMapping : (entries : List (String × Json)) → ∀ room,
    EntriesKeysOnce entries → entriesDepth entries ≤ room →
    encodeEntries room ((toMapping entries).map fun entry => (.str entry.1, entry.2)) =
      .ok (Shape.finiteEntries entries)
  | [] => fun _ _ _ => rfl
  | (key, item) :: rest => by
    intro room once deep
    rw [entriesDepth] at deep
    rw [toMapping, List.map_cons, encodeEntries, encode_toValue item room once.1 (by omega),
      encodeEntries_toMapping rest room once.2 (by omega)]
    rfl
end

theorem ok_of_room {room : Nat} {written : Except StoredFault Json} {document : Json}
    (made : (if room = 0 then .error .tooDeep else written) = .ok document) :
    1 ≤ room ∧ written = .ok document := by
  split at made
  · cases made
  · exact ⟨by omega, made⟩

mutual
/-- Nothing is written that is deeper than there is room. -/
theorem depth_le_room : (value : Value) → ∀ {room document},
    encode room value = .ok document → document.depth ≤ room
  | .null, _, _, made | .bool _, _, _, made | .int _, _, _, made | .str _, _, _, made => by
    obtain ⟨some, here⟩ := ok_of_room made
    cases here
    exact some
  | .float number, _, _, made => by
    obtain ⟨some, here⟩ := ok_of_room made
    cases here
    unfold ofFloat
    split <;> exact some
  | .bytes _, _, _, made => by
    obtain ⟨some, here⟩ := ok_of_room made
    obtain ⟨text, _, rfl⟩ := ok_of_map here
    exact some
  | .list items, _, _, made | .tuple items, _, _, made | .set items, _, _, made => by
    obtain ⟨some, here⟩ := ok_of_room made
    obtain ⟨documents, inside, rfl⟩ := ok_of_map here
    have within := itemsDepth_le_room items inside
    rw [depth]
    omega
  | .mapping entries, _, _, made => by
    obtain ⟨some, here⟩ := ok_of_room made
    obtain ⟨documents, inside, rfl⟩ := ok_of_map here
    have within := entriesDepth_le_room entries inside
    rw [depth]
    omega
  | .object, _, _, made | .cyclicList, _, _, made | .cyclicMapping, _, _, made => by
    obtain ⟨_, here⟩ := ok_of_room made
    cases here

theorem itemsDepth_le_room : (items : List Value) → ∀ {room documents},
    encodeItems room items = .ok documents → itemsDepth documents ≤ room
  | [], _, _, made => by
    cases made
    exact Nat.zero_le _
  | item :: rest, _, _, made => by
    obtain ⟨document, documents, first, later, rfl⟩ := ok_of_both made
    exact Nat.max_le.mpr ⟨depth_le_room item first, itemsDepth_le_room rest later⟩

theorem entriesDepth_le_room : (entries : List (Value × Value)) → ∀ {room documents},
    encodeEntries room entries = .ok documents → entriesDepth documents ≤ room
  | [], _, _, made => by
    cases made
    exact Nat.zero_le _
  | (key, item) :: rest, _, _, made => by
    rw [encodeEntries] at made
    cases named : keyText key with
    | error fault =>
      rw [named] at made
      cases made
    | ok name =>
      rw [named] at made
      obtain ⟨document, documents, first, later, rfl⟩ := ok_of_both made
      exact Nat.max_le.mpr ⟨depth_le_room item first, entriesDepth_le_room rest later⟩
end

end Stored

theorem keys_finiteEntries (entries : List (String × Json)) :
    (Shape.finiteEntries entries).map Prod.fst = entries.map Prod.fst := by
  induction entries with
  | nil => rfl
  | cons entry rest ih => rw [Shape.finiteEntries, List.map_cons, List.map_cons, ih]

theorem ofFloat_leaf (number : Float) :
    KeysOnce (Stored.ofFloat number) ∧ (Stored.ofFloat number).depth = 1 := by
  unfold Stored.ofFloat
  split <;> exact ⟨trivial, rfl⟩

mutual
theorem keysOnce_finite : (document : Json) → KeysOnce document →
    KeysOnce (Shape.finite document)
  | .null, _ | .bool _, _ | .int _, _ | .str _, _ => trivial
  | .float number, _ => (ofFloat_leaf number).1
  | .arr items, once => itemsKeysOnce_finite items once
  | .obj entries, once =>
    ⟨(keys_finiteEntries entries).symm ▸ once.1, entriesKeysOnce_finite entries once.2⟩

theorem itemsKeysOnce_finite : (items : List Json) → ItemsKeysOnce items →
    ItemsKeysOnce (Shape.finiteItems items)
  | [], _ => trivial
  | item :: rest, once => ⟨keysOnce_finite item once.1, itemsKeysOnce_finite rest once.2⟩

theorem entriesKeysOnce_finite : (entries : List (String × Json)) → EntriesKeysOnce entries →
    EntriesKeysOnce (Shape.finiteEntries entries)
  | [], _ => trivial
  | (_, item) :: rest, once =>
    ⟨keysOnce_finite item once.1, entriesKeysOnce_finite rest once.2⟩
end

mutual
theorem depth_finite : (document : Json) → (Shape.finite document).depth = document.depth
  | .null | .bool _ | .int _ | .str _ => rfl
  | .float number => (ofFloat_leaf number).2
  | .arr items => congrArg (· + 1) (itemsDepth_finite items)
  | .obj entries => congrArg (· + 1) (entriesDepth_finite entries)

theorem itemsDepth_finite : (items : List Json) →
    itemsDepth (Shape.finiteItems items) = itemsDepth items
  | [] => rfl
  | item :: rest => congrArg₂ max (depth_finite item) (itemsDepth_finite rest)

theorem entriesDepth_finite : (entries : List (String × Json)) →
    entriesDepth (Shape.finiteEntries entries) = entriesDepth entries
  | [] => rfl
  | (_, item) :: rest => congrArg₂ max (depth_finite item) (entriesDepth_finite rest)
end

def valueEntries (entries : List (String × Json)) : List (Value × Value) :=
  (toMapping entries).map fun entry => (.str entry.1, entry.2)

theorem lookup?_valueEntries {entries : List (String × Json)}
    (once : (entries.map Prod.fst).Nodup) {key : String} {item : Json}
    (member : (key, item) ∈ entries) :
    Value.lookup? (valueEntries entries) key = some item.toValue := by
  induction entries with
  | nil => cases member
  | cons entry rest ih =>
    obtain ⟨name, first⟩ := entry
    rw [List.map_cons, List.nodup_cons] at once
    rcases List.mem_cons.mp member with same | later
    · cases same
      simp [valueEntries, toMapping, Value.lookup?, Value.sameKey]
    · have other : name ≠ key := by
        rintro rfl
        exact once.1 (List.mem_map.mpr ⟨_, later, rfl⟩)
      have found := ih once.2 later
      simpa [valueEntries, toMapping, Value.lookup?, Value.sameKey, other] using found

end Json

end Transcript
