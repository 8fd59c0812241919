import Transcript.Proofs.Json.Collapsed
import Transcript.Proofs.Json.Finite
import Transcript.Proofs.Message.Loading

namespace Transcript

namespace Json.Stored

variable {room wider : Nat}

theorem room_ok {written : Except StoredFault Json} {document : Json} (enough : room ≤ wider)
    (some : 1 ≤ room) (made : written = .ok document) :
    (if wider = 0 then .error .tooDeep else written) = .ok document := by
  rw [if_neg (by omega), made]

mutual
/-- What is written where there is some room is written where there is more. -/
theorem encode_more : (value : Value) → ∀ {room wider document}, room ≤ wider →
    encode room value = .ok document → encode wider value = .ok document
  | .null, _, _, _, enough, made | .bool _, _, _, _, enough, made | .int _, _, _, _, enough, made
  | .float _, _, _, _, enough, made | .str _, _, _, _, enough, made
  | .bytes _, _, _, _, enough, made | .object, _, _, _, enough, made
  | .cyclicList, _, _, _, enough, made | .cyclicMapping, _, _, _, enough, made => by
    obtain ⟨some, here⟩ := ok_of_room made
    exact room_ok enough some here
  | .list items, _, _, _, enough, made | .tuple items, _, _, _, enough, made
  | .set items, _, _, _, enough, made => by
    obtain ⟨some, here⟩ := ok_of_room made
    obtain ⟨documents, inside, rfl⟩ := ok_of_map here
    refine room_ok enough some ?_
    rw [encodeItems_more items (Nat.sub_le_sub_right enough 1) inside]
    rfl
  | .mapping entries, _, _, _, enough, made => by
    obtain ⟨some, here⟩ := ok_of_room made
    obtain ⟨documents, inside, rfl⟩ := ok_of_map here
    refine room_ok enough some ?_
    rw [encodeEntries_more entries (Nat.sub_le_sub_right enough 1) inside]
    rfl

theorem encodeItems_more : (items : List Value) → ∀ {room wider documents}, room ≤ wider →
    encodeItems room items = .ok documents → encodeItems wider items = .ok documents
  | [], _, _, _, _, made => made
  | item :: rest, _, _, _, enough, made => by
    obtain ⟨document, documents, first, later, rfl⟩ := ok_of_both made
    rw [encodeItems, encode_more item enough first, encodeItems_more rest enough later]
    rfl

theorem encodeEntries_more : (entries : List (Value × Value)) → ∀ {room wider documents},
    room ≤ wider → encodeEntries room entries = .ok documents →
    encodeEntries wider entries = .ok documents
  | [], _, _, _, _, made => made
  | (key, item) :: rest, _, _, _, enough, made => by
    rw [encodeEntries] at made ⊢
    cases named : keyText key with
    | error fault =>
      rw [named] at made
      cases made
    | ok name =>
      rw [named] at made
      obtain ⟨document, documents, first, later, rfl⟩ := ok_of_both made
      rw [encode_more item enough first, encodeEntries_more rest enough later]
      rfl
end

end Json.Stored

namespace Message

open Draft (contentDocument)

/-- The entries that a mapping is stored as. -/
def MappingStores (room : Nat) (mapping : Mapping) (entries : DraftEntries) : Prop :=
  Json.Stored.encodeEntries room (mapping.map fun entry => (.str entry.1, entry.2)) = .ok entries

/-- The same of a mapping that may be missing. -/
def MappingStoresOr (room : Nat) : Option Mapping → Option DraftEntries → Prop
  | none, none => True
  | some mapping, some entries => MappingStores room mapping entries
  | _, _ => False

def VariantStores (room : Nat) : Variant → Draft.Variant → Prop
  | .human, .human | .system, .system => True
  | .ai invalidToolCalls toolCalls, .ai invalidEntries callEntries =>
    MappingStoresOr room invalidToolCalls invalidEntries ∧
      MappingStoresOr room toolCalls callEntries
  | .tool toolCallId toolName, .tool otherId otherName =>
    toolCallId = otherId ∧ toolName = otherName
  | .function functionCall, .function entries => MappingStoresOr room functionCall entries
  | _, _ => False

/-- The draft that a message is stored as. -/
structure Stores (room : Nat) (message : Message) (draft : Draft) : Prop where
  content : message.content = draft.content
  id : message.id = draft.id
  name : message.name = draft.name
  isExample : message.isExample = draft.isExample
  additional : MappingStores room message.additional draft.additional
  responseMetadata : MappingStores room message.responseMetadata draft.responseMetadata
  variant : VariantStores room message.variant draft.variant

variable {room wider : Nat}

theorem MappingStoresOr.widen {mapping : Option Mapping} {entries : Option DraftEntries}
    (enough : room ≤ wider) (stores : MappingStoresOr room mapping entries) :
    MappingStoresOr wider mapping entries := by
  cases mapping <;> cases entries <;> try exact stores
  case some.some => exact Json.Stored.encodeEntries_more _ enough stores

theorem VariantStores.widen {variant : Variant} {draft : Draft.Variant} (enough : room ≤ wider)
    (stores : VariantStores room variant draft) : VariantStores wider variant draft := by
  cases variant <;> cases draft <;> try exact stores
  case ai.ai => exact ⟨stores.1.widen enough, stores.2.widen enough⟩
  case function.function => exact MappingStoresOr.widen enough stores

theorem Stores.widen {message : Message} {draft : Draft} (enough : room ≤ wider)
    (stores : Stores room message draft) : Stores wider message draft :=
  { stores with
    additional := Json.Stored.encodeEntries_more _ enough stores.additional
    responseMetadata := Json.Stored.encodeEntries_more _ enough stores.responseMetadata
    variant := stores.variant.widen enough }

theorem finite_content (content : Content) :
    Shape.finite (contentDocument content) = contentDocument content := by
  cases content with
  | text => rfl
  | texts items =>
    have each : Shape.finiteItems (items.map .str) = items.map .str := by
      induction items with
      | nil => rfl
      | cons item rest ih => exact congrArg (Json.str item :: ·) ih
    exact congrArg Json.arr each

theorem content_within {content : Content} {document : Json} :
    content.shape.toJsonWithin room = .ok document ↔ document = contentDocument content := by
  have written : content.shape.toJsonWithin room = .ok (contentDocument content) := by
    cases content with
    | text => rfl
    | texts items => exact congrArg Except.ok (finite_content (.texts items))
  rw [written, Except.ok.injEq, eq_comm]

theorem text_within {text : Option String} {document : Json} :
    (Shape.optional .text text).toJsonWithin room = .ok document ↔
      document = documentOr .str text := by
  cases text <;> exact ⟨fun made => (Except.ok.inj made).symm, fun same => same ▸ rfl⟩

theorem mapping_within {mapping : Mapping} {document : Json} :
    (Shape.ofMapping mapping).toJsonWithin room = .ok document ↔
      ∃ entries, MappingStores room mapping entries ∧ document = .obj entries := by
  constructor
  · intro made
    obtain ⟨entries, inside, rfl⟩ := ok_of_map made
    exact ⟨entries, inside, rfl⟩
  · rintro ⟨entries, inside, rfl⟩
    rw [Shape.ofMapping, Shape.toJsonWithin, inside]
    rfl

theorem mappingOr_within {mapping : Option Mapping} {document : Json} :
    (Shape.optional .ofMapping mapping).toJsonWithin room = .ok document ↔
      ∃ entries, MappingStoresOr room mapping entries ∧ document = documentOr .obj entries := by
  cases mapping with
  | none =>
    constructor
    · intro made
      exact ⟨none, trivial, (Except.ok.inj made).symm⟩
    · rintro ⟨_ | entries, stores, rfl⟩
      · rfl
      · exact stores.elim
  | some mapping =>
    refine mapping_within.trans ⟨?_, ?_⟩
    · rintro ⟨entries, stores, rfl⟩
      exact ⟨some entries, stores, rfl⟩
    · rintro ⟨_ | entries, stores, rfl⟩
      · exact stores.elim
      · exact ⟨entries, stores, rfl⟩

theorem fields_cons {name : String} {shape : Shape} {rest : List (String × Shape)}
    {entries : List (String × Json)} :
    Shape.fieldsWithin room ((name, shape) :: rest) = .ok entries ↔
      ∃ document documents, shape.toJsonWithin room = .ok document ∧
        Shape.fieldsWithin room rest = .ok documents ∧ entries = (name, document) :: documents := by
  constructor
  · intro made
    obtain ⟨document, documents, first, later, rfl⟩ := ok_of_both made
    exact ⟨document, documents, first, later, rfl⟩
  · rintro ⟨document, documents, first, later, rfl⟩
    rw [Shape.fieldsWithin, first, later]
    rfl

theorem fields_nil {entries : List (String × Json)} :
    Shape.fieldsWithin room [] = .ok entries ↔ entries = [] :=
  ⟨fun made => (Except.ok.inj made).symm, fun same => same ▸ rfl⟩

theorem variant_within {variant : Variant} {entries : DraftEntries} :
    Shape.fieldsWithin room variant.fields = .ok entries ↔
      ∃ draft, VariantStores room variant draft ∧ entries = draft.entries := by
  constructor
  · intro made
    cases variant with
    | human => exact ⟨.human, trivial, fields_nil.mp made⟩
    | system => exact ⟨.system, trivial, fields_nil.mp made⟩
    | ai invalidToolCalls toolCalls =>
      obtain ⟨_, _, first, later, rfl⟩ := fields_cons.mp made
      obtain ⟨_, _, second, last, rfl⟩ := fields_cons.mp later
      obtain ⟨invalidEntries, invalid, rfl⟩ := mappingOr_within.mp first
      obtain ⟨callEntries, calls, rfl⟩ := mappingOr_within.mp second
      cases fields_nil.mp last
      exact ⟨.ai invalidEntries callEntries, ⟨invalid, calls⟩, rfl⟩
    | tool toolCallId toolName =>
      obtain ⟨_, _, first, later, rfl⟩ := fields_cons.mp made
      obtain ⟨_, _, second, last, rfl⟩ := fields_cons.mp later
      cases text_within.mp first
      cases text_within.mp second
      cases fields_nil.mp last
      exact ⟨.tool toolCallId toolName, ⟨rfl, rfl⟩, rfl⟩
    | function functionCall =>
      obtain ⟨_, _, first, last, rfl⟩ := fields_cons.mp made
      obtain ⟨callEntries, call, rfl⟩ := mappingOr_within.mp first
      cases fields_nil.mp last
      exact ⟨.function callEntries, call, rfl⟩
  · rintro ⟨draft, stores, rfl⟩
    cases variant <;> cases draft <;> try exact stores.elim
    case human.human | system.system => rfl
    case ai.ai =>
      refine fields_cons.mpr ⟨_, _, mappingOr_within.mpr ⟨_, stores.1, rfl⟩, ?_, rfl⟩
      exact fields_cons.mpr ⟨_, _, mappingOr_within.mpr ⟨_, stores.2, rfl⟩, rfl, rfl⟩
    case tool.tool =>
      obtain ⟨rfl, rfl⟩ := stores
      refine fields_cons.mpr ⟨_, _, text_within.mpr rfl, ?_, rfl⟩
      exact fields_cons.mpr ⟨_, _, text_within.mpr rfl, rfl, rfl⟩
    case function.function =>
      exact fields_cons.mpr ⟨_, _, mappingOr_within.mpr ⟨_, stores, rfl⟩, rfl, rfl⟩

theorem VariantStores.tag {variant : Variant} {draft : Draft.Variant}
    (stores : VariantStores room variant draft) : draft.variant.tag = variant.tag := by
  cases variant <;> cases draft <;> first | rfl | exact stores.elim

/-- The fields of a message are written as the entries of a draft that it is stored as. -/
theorem fields_within {message : Message} {entries : DraftEntries} :
    Shape.fieldsWithin room message.fields = .ok entries ↔
      ∃ draft, Stores room message draft ∧ entries = draft.entries := by
  constructor
  · intro made
    obtain ⟨_, _, content, afterContent, rfl⟩ := fields_cons.mp made
    obtain ⟨_, _, id, afterId, rfl⟩ := fields_cons.mp afterContent
    obtain ⟨_, _, name, afterName, rfl⟩ := fields_cons.mp afterId
    obtain ⟨_, _, isExample, afterExample, rfl⟩ := fields_cons.mp afterName
    obtain ⟨_, _, first, afterFirst, rfl⟩ := fields_cons.mp afterExample
    obtain ⟨_, _, second, afterSecond, rfl⟩ := fields_cons.mp afterFirst
    obtain ⟨_, _, tag, rest, rfl⟩ := fields_cons.mp afterSecond
    obtain ⟨additional, storesFirst, rfl⟩ := mapping_within.mp first
    obtain ⟨responseMetadata, storesSecond, rfl⟩ := mapping_within.mp second
    obtain ⟨variant, storesVariant, rfl⟩ := variant_within.mp rest
    cases content_within.mp content
    cases text_within.mp name
    cases id
    cases isExample
    cases tag
    refine ⟨⟨message.content, message.id, message.name, message.isExample, additional,
      responseMetadata, variant⟩, ?stores, ?_⟩
    case stores => exact ⟨rfl, rfl, rfl, rfl, storesFirst, storesSecond, storesVariant⟩
    rw [Draft.entries, storesVariant.tag]
    rfl
  · rintro ⟨⟨content, id, name, isExample, additional, responseMetadata, variant⟩,
      ⟨rfl, rfl, rfl, rfl, first, second, third⟩, rfl⟩
    refine fields_cons.mpr ⟨_, _, content_within.mpr rfl, ?_, rfl⟩
    refine fields_cons.mpr ⟨_, _, rfl, ?_, rfl⟩
    refine fields_cons.mpr ⟨_, _, text_within.mpr rfl, ?_, rfl⟩
    refine fields_cons.mpr ⟨_, _, rfl, ?_, rfl⟩
    refine fields_cons.mpr ⟨_, _, mapping_within.mpr ⟨_, first, rfl⟩, ?_, rfl⟩
    refine fields_cons.mpr ⟨_, _, mapping_within.mpr ⟨_, second, rfl⟩, ?_, rfl⟩
    refine fields_cons.mpr ⟨_, _, rfl, variant_within.mpr ⟨_, third, rfl⟩, ?_⟩
    exact congrArg (fun tag => ("type", Json.str tag) :: _) third.tag

/-- The value that a message is stored as is that of a draft. -/
theorem dump_eq_ok_iff {message : Message} {value : Value} :
    message.shape.dump = .ok value ↔ ∃ draft : Draft,
      Stores Json.Stored.depthLimit message draft ∧ value = draft.document.toValue := by
  constructor
  · intro made
    obtain ⟨document, written, rfl⟩ := ok_of_map made
    obtain ⟨entries, inside, rfl⟩ := ok_of_map written
    obtain ⟨draft, stores, rfl⟩ := fields_within.mp inside
    exact ⟨draft, stores, rfl⟩
  · rintro ⟨draft, stores, rfl⟩
    have inside := fields_within.mpr ⟨draft, stores, rfl⟩
    rw [Shape.dump, Shape.toJson, shape, Shape.toJsonWithin, inside]
    rfl

/-- The entries of an object in which each key is left once. -/
def collapsedObject (entries : DraftEntries) : DraftEntries :=
  collapse (Json.collapsedEntries entries)

def Draft.Variant.collapsed : Draft.Variant → Draft.Variant
  | .ai invalidToolCalls toolCalls =>
    .ai (invalidToolCalls.map collapsedObject) (toolCalls.map collapsedObject)
  | .function functionCall => .function (functionCall.map collapsedObject)
  | variant => variant

/-- A draft in whose mappings each key is left once. -/
def Draft.collapsed (draft : Draft) : Draft :=
  { draft with
    additional := collapsedObject draft.additional
    responseMetadata := collapsedObject draft.responseMetadata
    variant := draft.variant.collapsed }

theorem collapsed_documentOr (entries : Option DraftEntries) :
    (documentOr Json.obj entries).collapsed = documentOr .obj (entries.map collapsedObject) := by
  cases entries <;> rfl

theorem collapsed_text (text : Option String) :
    (documentOr Json.str text).collapsed = documentOr .str text := by
  cases text <;> rfl

theorem collapsed_content (content : Content) :
    (contentDocument content).collapsed = contentDocument content := by
  apply Json.collapsed_of_keysOnce
  cases content with
  | text => trivial
  | texts items =>
    refine Json.itemsKeysOnce_iff.mpr fun item member => ?_
    obtain ⟨text, _, rfl⟩ := List.mem_map.mp member
    trivial

theorem Draft.Variant.tag_collapsed (variant : Draft.Variant) :
    variant.collapsed.variant.tag = variant.variant.tag := by
  cases variant <;> rfl

theorem Draft.Variant.entries_collapsed (variant : Draft.Variant) :
    variant.collapsed.entries = Json.collapsedEntries variant.entries := by
  cases variant <;>
    simp [collapsed, entries, Json.collapsedEntries, collapsed_documentOr, collapsed_text]

/-- The object of a draft has each field once, so only its mappings change. -/
theorem Draft.document_collapsed (draft : Draft) :
    draft.document.collapsed = draft.collapsed.document := by
  have entries : Json.collapsedEntries draft.entries = draft.collapsed.entries := by
    rw [Draft.entries, Draft.entries, Json.collapsedEntries_eq_map, List.map_append,
      ← Json.collapsedEntries_eq_map draft.variant.entries, collapsed]
    simp only [draft.variant.tag_collapsed, draft.variant.entries_collapsed, List.map_cons,
      List.map_nil, collapsed_content, collapsed_text]
    rfl
  rw [document, Json.collapsed, entries, document]
  exact congrArg Json.obj (collapse_of_nodup draft.collapsed.names_nodup)

theorem MappingStores.again {mapping : Mapping} {entries : DraftEntries}
    (stores : MappingStores room mapping entries) :
    MappingStores room (Json.toMapping (collapsedObject entries)) (collapsedObject entries) := by
  have numbers : Json.Leaves Json.IsNumber (.obj entries) :=
    Json.Stored.entryLeaves_encode _ stores
  have once := Json.keysOnce_collapsed (.obj entries)
  have deep : Json.entriesDepth (collapsedObject entries) ≤ room :=
    Nat.le_trans (Json.entriesDepth_collapsed_le entries)
      (Json.Stored.entriesDepth_le_room _ stores)
  have written := Json.Stored.encodeEntries_toMapping (collapsedObject entries) room once.2 deep
  have asItIs : Shape.finiteEntries (collapsedObject entries) = collapsedObject entries :=
    Json.finiteEntries_of_isNumber _ (Json.leaves_collapsed _ numbers)
  rw [asItIs] at written
  exact written

theorem MappingStoresOr.again {mapping : Option Mapping} {entries : Option DraftEntries}
    (stores : MappingStoresOr room mapping entries) :
    MappingStoresOr room ((entries.map collapsedObject).map Json.toMapping)
      (entries.map collapsedObject) := by
  cases mapping <;> cases entries <;> try exact stores.elim
  case none.none => trivial
  case some.some => exact MappingStores.again stores

theorem VariantStores.again {variant : Variant} {draft : Draft.Variant}
    (stores : VariantStores room variant draft) :
    VariantStores room draft.collapsed.variant draft.collapsed := by
  cases variant <;> cases draft <;> try exact stores.elim
  case human.human | system.system => trivial
  case tool.tool => exact ⟨rfl, rfl⟩
  case ai.ai => exact ⟨stores.1.again, stores.2.again⟩
  case function.function => exact MappingStoresOr.again stores

/-- A message that is loaded from what a message was stored as is stored as the same. -/
theorem Stores.again {message : Message} {draft : Draft} (stores : Stores room message draft) :
    Stores room draft.collapsed.message draft.collapsed where
  content := rfl
  id := rfl
  name := rfl
  isExample := rfl
  additional := stores.additional.again
  responseMetadata := stores.responseMetadata.again
  variant := stores.variant.again

end Message

end Transcript
