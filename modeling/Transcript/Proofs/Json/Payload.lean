import Transcript.Json.Payload
import Transcript.Proofs.Json.FreeForm
import Transcript.Proofs.Json.Floats

namespace Transcript

namespace Value

mutual
/-- How many containers of a value stand inside each other at most. What is not gone through item
by item counts as none. -/
def nesting : Value → Nat
  | .list items | .tuple items => itemsNesting items + 1
  | .mapping entries => entriesNesting entries + 1
  | _ => 0

def itemsNesting : List Value → Nat
  | [] => 0
  | item :: rest => max (nesting item) (itemsNesting rest)

def entriesNesting : List (Value × Value) → Nat
  | [] => 0
  | (_, item) :: rest => max (nesting item) (entriesNesting rest)
end

theorem entriesNesting_le {entries : List (Value × Value)} {bound : Nat}
    (each : ∀ entry ∈ entries, entry.2.nesting ≤ bound) : entriesNesting entries ≤ bound := by
  induction entries with
  | nil => exact Nat.zero_le bound
  | cons entry rest ih =>
    exact Nat.max_le.mpr ⟨each entry List.mem_cons_self,
      ih fun entry member => each entry (List.mem_cons_of_mem _ member)⟩

theorem nesting_nest (depth : Nat) : (nest (fun inner => .list [inner]) depth).nesting = depth := by
  induction depth with
  | zero => rfl
  | succ depth ih => rw [nest, nesting, itemsNesting, itemsNesting, ih, Nat.max_zero]

end Value

namespace Json

mutual
theorem nesting_toValue_le : (document : Json) → document.toValue.nesting ≤ document.depth
  | .null | .bool _ | .int _ | .float _ | .str _ => Nat.zero_le _
  | .arr items => Nat.succ_le_succ (itemsNesting_toValues_le items)
  | .obj entries => by
    refine Nat.succ_le_succ (Value.entriesNesting_le fun entry member => ?_)
    obtain ⟨kept, left, rfl⟩ := List.mem_map.mp member
    exact nesting_toMapping_le entries kept (mem_of_mem_collapse left)

theorem itemsNesting_toValues_le : (items : List Json) →
    Value.itemsNesting (toValues items) ≤ itemsDepth items
  | [] => Nat.le_refl 0
  | item :: rest => by
    have first := nesting_toValue_le item
    have others := itemsNesting_toValues_le rest
    rw [toValues, Value.itemsNesting, itemsDepth]
    omega

theorem nesting_toMapping_le : (entries : List (String × Json)) →
    ∀ entry ∈ toMapping entries, entry.2.nesting ≤ entriesDepth entries
  | [] => fun _ member => nomatch member
  | (key, item) :: rest => by
    intro entry member
    rw [entriesDepth]
    rcases List.mem_cons.mp member with rfl | later
    · exact le_max_of_le_left (nesting_toValue_le item)
    · exact le_max_of_le_right (nesting_toMapping_le rest entry later)
end

namespace Payload

theorem keyText_ne_tooDeep (key : Value) : keyText key ≠ .error .tooDeep := by
  intro failed
  cases key with
  | int number =>
    rw [keyText] at failed
    split at failed <;> cases failed
  | _ => cases failed

mutual
/-- Too deep is only what is nested deeper than the writer may go. -/
theorem lt_nesting : (value : Value) → ∀ {depth},
    encode depth value = .error .tooDeep → depth < value.nesting
  | .null, _, failed | .bool _, _, failed | .float _, _, failed | .str _, _, failed
  | .bytes _, _, failed | .set _, _, failed | .object, _, failed
  | .cyclicList, _, failed | .cyclicMapping, _, failed => by cases failed
  | .int _, _, failed => by
    rw [encode] at failed
    split at failed <;> cases failed
  | .list items, depth, failed | .tuple items, depth, failed => by
    rw [encode] at failed
    rw [Value.nesting]
    split at failed
    · omega
    · have inside := lt_itemsNesting items (error_of_map failed)
      omega
  | .mapping entries, depth, failed => by
    rw [encode] at failed
    rw [Value.nesting]
    split at failed
    · omega
    · have inside := lt_entriesNesting entries (error_of_map failed)
      omega

theorem lt_itemsNesting : (items : List Value) → ∀ {depth},
    encodeItems depth items = .error .tooDeep → depth < Value.itemsNesting items
  | [], _, failed => by cases failed
  | item :: rest, depth, failed => by
    rw [Value.itemsNesting, lt_max_iff]
    apply (error_of_both failed).imp
    · exact fun here => lt_nesting item here
    · exact fun later => lt_itemsNesting rest later

theorem lt_entriesNesting : (entries : List (Value × Value)) → ∀ {depth},
    encodeEntries depth entries = .error .tooDeep → depth < Value.entriesNesting entries
  | [], _, failed => by cases failed
  | (key, item) :: rest, depth, failed => by
    rw [Value.entriesNesting, lt_max_iff]
    rw [encodeEntries] at failed
    cases named : keyText key with
    | error fault =>
      rw [named] at failed
      cases failed
      exact absurd named (keyText_ne_tooDeep key)
    | ok name =>
      rw [named] at failed
      apply (error_of_both failed).imp
      · exact fun here => lt_nesting item here
      · exact fun later => lt_entriesNesting rest later
end

/-- A result for which the writer has to go so deep. -/
def within {α : Type} (nesting depth : Nat) (result : α) : Except PayloadFault α :=
  if nesting ≤ depth then .ok result else .error .tooDeep

section Within

variable {α β γ : Type}

theorem map_within (build : α → β) (nesting depth : Nat) (result : α) :
    build <$> within nesting depth result = within (nesting + 1) (depth + 1) (build result) := by
  unfold within
  by_cases fits : nesting ≤ depth
  · rw [if_pos fits, if_pos (Nat.succ_le_succ fits)]
    rfl
  · rw [if_neg fits, if_neg (mt Nat.le_of_succ_le_succ fits)]
    rfl

theorem both_within (both : α → β → γ) (nesting others depth : Nat) (left : α) (right : β) :
    (do return both (← within nesting depth left) (← within others depth right)) =
      within (max nesting others) depth (both left right) := by
  unfold within
  by_cases first : nesting ≤ depth
  · by_cases second : others ≤ depth
    · rw [if_pos first, if_pos second, if_pos (Nat.max_le.mpr ⟨first, second⟩)]
      rfl
    · rw [if_pos first, if_neg second, if_neg fun all => second (Nat.max_le.mp all).2]
      rfl
  · rw [if_neg first, if_neg fun all => first (Nat.max_le.mp all).1]
    rfl

end Within

mutual
/-- What can be written at all is written by every writer that may go deep enough. -/
theorem encode_of_ok : (value : Value) → ∀ {room document}, encode room value = .ok document →
    ∀ depth, encode depth value = within value.nesting depth document
  | .null, _, _, made, _ | .bool _, _, _, made, _ | .float _, _, _, made, _
  | .str _, _, _, made, _ => by
    cases made
    rfl
  | .int _, _, _, made, _ => by
    rw [encode] at made ⊢
    rw [made]
    rfl
  | .bytes _, _, _, made, _ | .set _, _, _, made, _ | .object, _, _, made, _
  | .cyclicList, _, _, made, _ | .cyclicMapping, _, _, made, _ => by cases made
  | .list items, _, _, made, depth | .tuple items, _, _, made, depth => by
    rw [encode] at made
    split at made
    · cases made
    · obtain ⟨documents, inside, rfl⟩ := ok_of_map made
      cases depth with
      | zero => rfl
      | succ depth =>
        rw [encode, if_neg depth.succ_ne_zero, Nat.add_sub_cancel,
          encodeItems_of_ok items inside depth, map_within]
        rfl
  | .mapping entries, _, _, made, depth => by
    rw [encode] at made
    split at made
    · cases made
    · obtain ⟨documents, inside, rfl⟩ := ok_of_map made
      cases depth with
      | zero => rfl
      | succ depth =>
        rw [encode, if_neg depth.succ_ne_zero, Nat.add_sub_cancel,
          encodeEntries_of_ok entries inside depth, map_within]
        rfl

theorem encodeItems_of_ok : (items : List Value) → ∀ {room documents},
    encodeItems room items = .ok documents →
    ∀ depth, encodeItems depth items = within (Value.itemsNesting items) depth documents
  | [], _, _, made, _ => by
    cases made
    rfl
  | item :: rest, _, _, made, depth => by
    obtain ⟨document, documents, first, later, rfl⟩ := ok_of_both made
    rw [encodeItems, encode_of_ok item first depth, encodeItems_of_ok rest later depth]
    exact both_within List.cons _ _ depth document documents

theorem encodeEntries_of_ok : (entries : List (Value × Value)) → ∀ {room documents},
    encodeEntries room entries = .ok documents →
    ∀ depth, encodeEntries depth entries = within (Value.entriesNesting entries) depth documents
  | [], _, _, made, _ => by
    cases made
    rfl
  | (key, item) :: rest, _, _, made, depth => by
    rw [encodeEntries] at made ⊢
    cases named : keyText key with
    | error fault =>
      rw [named] at made
      cases made
    | ok name =>
      rw [named] at made
      obtain ⟨document, documents, first, later, rfl⟩ := ok_of_both made
      rw [encode_of_ok item first depth, encodeEntries_of_ok rest later depth]
      exact both_within (fun document rest => (name, document) :: rest) _ _ depth document documents
end

/-- Of what can be written at all, exactly what is nested deeper than a payload may be is too
deep. -/
theorem write_tooDeep_iff {value : Value} {room : Nat} {document : Json}
    (made : encode room value = .ok document) :
    write value = .error .tooDeep ↔ depthLimit < value.nesting := by
  rw [write, encode_of_ok value made depthLimit, within]
  by_cases fits : value.nesting ≤ depthLimit
  · rw [if_pos fits]
    exact iff_of_false (fun failed => nomatch failed) (Nat.not_lt.mpr fits)
  · rw [if_neg fits]
    exact iff_of_true rfl (Nat.lt_of_not_le fits)

/-- Lists inside each other can be written by a writer that may go as deep as they do. -/
theorem encode_nest (depth : Nat) :
    ∃ document, encode depth (Value.nest (fun inner => .list [inner]) depth) = .ok document := by
  induction depth with
  | zero => exact ⟨.null, rfl⟩
  | succ depth ih =>
    obtain ⟨document, made⟩ := ih
    refine ⟨.arr [document], ?_⟩
    rw [Value.nest, encode, if_neg depth.succ_ne_zero, Nat.add_sub_cancel, encodeItems, made]
    rfl

mutual
theorem encode_toValue : (document : Json) → ∀ {depth}, KeysOnce document →
    Leaves (Layout.payload.CanSpell Decimal.integerLimit) document → document.depth ≤ depth →
    encode depth document.toValue = .ok document
  | .null, _, _, _, _ | .bool _, _, _, _, _ | .float _, _, _, _, _ | .str _, _, _, _, _ => rfl
  | .int number, _, _, short, _ => by
    have spellable : Decimal.isSpellable number = true := by
      simpa [Decimal.isSpellable] using Nat.cast_le.mp short
    rw [toValue, encode, if_pos spellable]
  | .arr items, depth, once, short, deep => by
    rw [Json.depth] at deep
    rw [toValue, encode, if_neg (by omega),
      encodeItems_toValues items once short (show itemsDepth items ≤ depth - 1 by omega)]
    rfl
  | .obj entries, depth, once, short, deep => by
    rw [Json.depth] at deep
    rw [toValue_obj once.1, Value.ofMapping, encode, if_neg (by omega),
      encodeEntries_toMapping entries once.2 short (show entriesDepth entries ≤ depth - 1 by omega)]
    rfl

theorem encodeItems_toValues : (items : List Json) → ∀ {depth}, ItemsKeysOnce items →
    ItemLeaves (Layout.payload.CanSpell Decimal.integerLimit) items → itemsDepth items ≤ depth →
    encodeItems depth (toValues items) = .ok items
  | [], _, _, _, _ => rfl
  | item :: rest, _, once, short, deep => by
    obtain ⟨here, later⟩ := Nat.max_le.mp deep
    rw [toValues, encodeItems, encode_toValue item once.1 short.1 here,
      encodeItems_toValues rest once.2 short.2 later]
    rfl

theorem encodeEntries_toMapping : (entries : List (String × Json)) → ∀ {depth},
    EntriesKeysOnce entries →
    EntryLeaves (Layout.payload.CanSpell Decimal.integerLimit) entries →
    entriesDepth entries ≤ depth →
    encodeEntries depth ((toMapping entries).map fun entry => (.str entry.1, entry.2)) =
      .ok entries
  | [], _, _, _, _ => rfl
  | (key, item) :: rest, _, once, short, deep => by
    obtain ⟨here, later⟩ := Nat.max_le.mp deep
    rw [toMapping, List.map_cons, encodeEntries, encode_toValue item once.1 short.1 here,
      encodeEntries_toMapping rest once.2 short.2 later]
    rfl
end

theorem write_toValue {document : Json} (once : KeysOnce document)
    (back : Leaves Layout.stored.GivesBack document) (shallow : document.depth ≤ depthLimit) :
    write document.toValue = .ok (render .payload document) := by
  have spellable := Leaves.imp (fun _ back => back.1) document (Layout.leaves_payload document back)
  rw [write, encode_toValue document once spellable shallow]
  rfl

/-- A document that comes back from where it is stored comes back from a payload. -/
theorem read?_render {document : Json} (back : Leaves Layout.stored.GivesBack document)
    {limit : Nat} (shallow : document.depth ≤ limit + 1) :
    read? limit (render .payload document) = some document := by
  have payload := Layout.leaves_payload document back
  have spellable := Leaves.imp (fun _ back => back.1) document payload
  have spelled := Layout.spells_chars Layout.payload_isStandard document spellable
  rw [Layout.asRead_of_givesBack document payload] at spelled
  refine read?_spelled ?_ shallow
  rwa [render, String.toList_ofList]

end Payload

end Json

end Transcript
